import SignOnGate.Gate.Basic
import SignOnGate.Plugin.Catalogue
import SignOnGate.Setup.Rule

/-!
# Setting up a gate

A gate is set up once, from settings or from its parts. All classes that the configuration names are
loaded and built here, so that a broken configuration shows before the first request. The steps come
in a fixed order, and the first one that fails gives the fault.
-/

namespace SignOnGate

namespace Setup

open Plugin

/-! ## Collaborators -/

/-- The rule of a class that is built from the text of the rule. -/
def exclusionOfClass (catalogue : Catalogue) (path rule : Text) : Except SetupFault Exclusion :=
  match catalogue.load path with
  | .error fault => .error fault
  | .ok pluginClass =>
    match pluginClass.new (some rule) with
    | .error (.arguments reason) => .error (.refused (.notBuilt none path reason))
    | .error (.badValue reason) => .error (.refused (.notBuilt none path reason))
    | .error fault => .error fault
    | .ok plugin =>
      match plugin.exclusion with
      | some exclusion => .ok exclusion
      | none => .error (.refused (.notAnExclusion path))

/-- The exclusion rule of a type, which is one of the known kinds or the path of a class. -/
def exclusion (catalogue : Catalogue) (type : Option Text) (rule : Text) :
    Except SetupFault Exclusion :=
  let name := Text.strip (match type with
    | none | some [] => Settings.standardExclusionType
    | some name => name)
  match Exclusion.ofKind? name with
  | some make => make rule
  | none => exclusionOfClass catalogue name rule

/-- An instance of a class that is built without arguments. -/
def instanceOf (catalogue : Catalogue) (path : Text) : Except SetupFault Plugin :=
  (catalogue.load path).bind (·.new none)

/-- An instance of a class for a role; a class that takes arguments is refused. -/
def instanceFor (catalogue : Catalogue) (role : Role) (path : Text) : Except SetupFault Plugin :=
  match catalogue.load path with
  | .error fault => .error fault
  | .ok pluginClass =>
    match pluginClass.new none with
    | .error (.arguments reason) => .error (.refused (.notBuilt (some role) path reason))
    | .error fault => .error fault
    | .ok plugin => .ok plugin

/-- The resolver of a class. -/
def resolverOfClass (catalogue : Catalogue) (path : Text) : Except SetupFault Gateway.Resolver :=
  match instanceFor catalogue .resolver path with
  | .error fault => .error fault
  | .ok plugin =>
    match plugin.resolver with
    | some resolver => .ok resolver
    | none => .error (.refused (.notInRole .resolver path))

/-- The delivery of a class. -/
def deliveryOfClass (catalogue : Catalogue) (path : Text) : Except SetupFault Delivery :=
  match instanceFor catalogue .delivery path with
  | .error fault => .error fault
  | .ok plugin =>
    match plugin.delivery with
    | some delivery => .ok delivery
    | none => .error (.refused (.notInRole .delivery path))

/-- Collaborators of a gate that are there already. -/
structure Collaborators where
  exclusion : Option Exclusion := none
  resolver : Option Gateway.Resolver := none
  delivery : Option Delivery := none

/-- Something that is there already, or that an instance of a class is to serve as. -/
inductive Choice (α : Type) where
  | given (value : α)
  | named (path : Text)

/-- What collaborators are to be made of: an exclusion rule has a type and a text. -/
structure Choices where
  resolver : Option (Choice Gateway.Resolver) := none
  delivery : Option (Choice Delivery) := none
  exclusion : Option (Option Text × Text) := none

/-- What a choice comes to; instances are taken as they are, whether or not they serve. -/
def Choice.settle {α : Type} (choice : Choice α) (catalogue : Catalogue) (as : Plugin → α) :
    Except SetupFault α :=
  match choice with
  | given value => .ok value
  | named path => (instanceOf catalogue path).map as

/-- The collaborators that choices come to, resolver first and exclusion rule last. -/
def Choices.settle (choices : Choices) (catalogue : Catalogue) :
    Except SetupFault Collaborators := do
  let resolver ← choices.resolver.mapM (·.settle catalogue Plugin.asResolver)
  let delivery ← choices.delivery.mapM (·.settle catalogue Plugin.asDelivery)
  let exclusion ← choices.exclusion.mapM fun rule => Setup.exclusion catalogue rule.1 rule.2
  return { exclusion, resolver, delivery }

/-! ## From settings -/

/-- The exclusion rule that settings ask for, if they do. -/
def exclusionOfSettings (catalogue : Catalogue) (settings : Settings) :
    Except SetupFault (Option Exclusion) :=
  match settings.exclusionRule with
  | none => .ok none
  | some rule => (exclusion catalogue (some settings.exclusionType) rule).map some

/-- The resolver that settings ask for. -/
def resolverOfSettings (catalogue : Catalogue) (settings : Settings) :
    Except SetupFault Gateway.Resolver :=
  match settings.resolverClass with
  | none => .ok .standard
  | some path => resolverOfClass catalogue path

/-- The delivery that settings ask for. -/
def deliveryOfSettings (catalogue : Catalogue) (settings : Settings) :
    Except SetupFault Delivery :=
  match settings.deliveryClass with
  | none => .ok .standard
  | some path => deliveryOfClass catalogue path

/-- The gate that settings describe. Collaborators that are there already take precedence. -/
def gate (catalogue : Catalogue) (settings : Settings) (collaborators : Collaborators) :
    Except SetupFault Gate := do
  let login ← (LoginUrl.parse settings.loginUrl).mapError (SetupFault.refused ∘ .login)
  let exclusion ← match collaborators.exclusion with
    | some exclusion => .ok (some exclusion)
    | none => exclusionOfSettings catalogue settings
  let resolver ← match collaborators.resolver with
    | some resolver => .ok resolver
    | none => resolverOfSettings catalogue settings
  let delivery ← match collaborators.delivery with
    | some delivery => .ok delivery
    | none => deliveryOfSettings catalogue settings
  let options : GateOptions := {
    renew := settings.renew
    gateway := settings.gateway
    protocol := settings.protocol
    exclusion, resolver, delivery
    service := settings.service
    serverName := settings.serverName }
  (Gate.make login options).mapError SetupFault.refused

/-- The gate that properties describe, with collaborators settled before the properties are read. -/
def gateOfProperties (catalogue : Catalogue) (choices : Choices)
    (properties : List (Text × Value)) : Except SetupFault Gate := do
  let collaborators ← choices.settle catalogue
  let settings ← (Settings.ofProperties properties).mapError (SetupFault.refused ∘ .settings)
  gate catalogue settings collaborators

/-! ## From parts -/

/-- Where a login URL comes from. -/
inductive LoginSource where
  /-- A text, or the lack of one. -/
  | text (text : Option Text)
  /-- A login URL that was put together from its parts. -/
  | parts (login : LoginUrl)
  /-- Something that is no login URL at all. -/
  | foreign

/-- A login URL from its source. -/
def LoginSource.login : LoginSource → Except ConfigurationError LoginUrl
  | .text source => (LoginUrl.parse? source).mapError .login
  | .parts login => .ok login
  | .foreign => .error .loginRequired

/-- A gate from its parts. The protocol is looked up by its exact name, before the login URL. -/
def gateOfParts (catalogue : Catalogue) (choices : Choices) (source : LoginSource)
    (protocolName : Option Text) (options : GateOptions) : Except SetupFault Gate := do
  let collaborators ← choices.settle catalogue
  let protocol ← match protocolName with
    | none => .ok options.protocol
    | some name =>
      match Protocol.ofName? name with
      | some protocol => .ok protocol
      | none => .error .unknownProtocol
  let login ← source.login.mapError SetupFault.refused
  let options := { options with
    protocol
    exclusion := collaborators.exclusion
    resolver := collaborators.resolver.getD options.resolver
    delivery := collaborators.delivery.getD options.delivery }
  (Gate.make login options).mapError SetupFault.refused

end Setup

end SignOnGate
