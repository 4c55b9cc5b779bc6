import SignOnGate.Login
import SignOnGate.Pattern.Fault
import SignOnGate.Plugin.Escape
import SignOnGate.Settings

/-!
# Faults of a setup

Why a gate cannot be set up. Nearly all causes are refusals of the configuration, each with words of
its own. The others come out of a plugin or of the pattern machinery and are passed on.
-/

namespace SignOnGate

/-- What a plugin class is configured for. -/
inductive Role where
  | resolver
  | delivery
  deriving Repr, DecidableEq

/-- The name of a role. -/
def Role.label : Role → Text
  | resolver => "GatewayResolver".toList
  | delivery => "RedirectStrategy".toList

/-- Why a configuration is refused. -/
inductive ConfigurationError where
  /-- The text is no login URL. -/
  | login (error : LoginError)
  /-- There is something else in place of a login URL. -/
  | loginRequired
  /-- The login URL was put together from an empty part. -/
  | loginPartsEmpty
  /-- The exclusion rule is no pattern. -/
  | badPattern (source : Text) (cause : Pattern.Cause) (position : Option Nat)
  /-- The path does not name a module and a class in it. -/
  | notQualified (path : Text)
  /-- There is no such module; its parent is given if it can have no modules in it. -/
  | moduleMissing (path missing : Text) (plainParent : Option Text)
  /-- The module has no such member. -/
  | memberMissing (moduleName member : Text)
  /-- The path names something that is no class. -/
  | notAClass (path : Text)
  /-- The class cannot be built. -/
  | notBuilt (role : Option Role) (path reason : Text)
  /-- The class does not serve its role. -/
  | notInRole (role : Role) (path : Text)
  /-- The class is no exclusion rule. -/
  | notAnExclusion (path : Text)
  /-- The settings have problems. -/
  | settings (problems : List (Field × Problem))
  deriving Repr, DecidableEq

namespace ConfigurationError

open Text

/-- The words behind the name of a missing module. -/
def parentMessage : Option Text → Text
  | none => []
  | some parent => "; ".toList ++ quoted parent ++ " is not a package".toList

/-- The words for a refusal. -/
def message : ConfigurationError → Text
  | login error => error.message
  | loginRequired => "login must be a LoginUrlConfig".toList
  | loginPartsEmpty => "Login URL domain parts cannot be empty".toList
  | badPattern source cause position =>
    "Invalid ignore pattern ".toList ++ quoted source ++ ": ".toList ++
      (Pattern.Fault.malformed cause position).message source
  | notQualified path => quoted path ++ " is not a qualified class name".toList
  | moduleMissing path missing plainParent =>
    "Could not import module for ".toList ++ quoted path ++ ": No module named ".toList ++
      quoted missing ++ parentMessage plainParent
  | memberMissing moduleName member =>
    quoted moduleName ++ " has no attribute ".toList ++ quoted member
  | notAClass path => quoted path ++ " is not a class".toList
  | notBuilt role path reason =>
    "Could not instantiate ".toList ++ (role.map fun role => role.label ++ [' ']).getD [] ++
      quoted path ++ ": ".toList ++ reason
  | notInRole role path => quoted path ++ " is not a ".toList ++ role.label
  | notAnExclusion path => quoted path ++ " does not provide matches(url)".toList
  | settings problems =>
    "Invalid gate settings: ".toList ++ joined ", ".toList (problems.map fun problem =>
      problem.1.name ++ ": ".toList ++ problem.2.name)

end ConfigurationError

/-- Why a gate is not set up. -/
inductive SetupFault where
  /-- The configuration is refused. -/
  | refused (error : ConfigurationError)
  /-- A class path begins with a dot, and there is nothing that it could be relative to. -/
  | relativePath
  /-- A login protocol has another name. -/
  | unknownProtocol
  /-- A class takes other arguments. -/
  | arguments (message : Text)
  /-- A class does not accept the value of its argument. -/
  | badValue (message : Text)
  /-- A number in a pattern is too large. -/
  | tooLarge
  /-- The groups of a pattern are nested too deeply. -/
  | nestedTooDeep
  /-- A look-behind of a pattern goes back too far. -/
  | lookBehindTooFar
  /-- A plugin failed in another way. -/
  | escaped (escape : Escape)
  deriving Repr, DecidableEq

end SignOnGate
