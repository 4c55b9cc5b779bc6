import SignOnGate.Plugin.Catalogue
import SignOnGate.Protocol
import SignOnGate.Setup.Rule

/-!
# The classes of the gate

The catalogue of the classes that come with the gate, under a common top package, and of the few
basic classes that every path can name. Only matchers, resolvers and strategies serve a purpose; the
other classes are there so that a path that names one of them gets its proper answer.
-/

namespace SignOnGate

namespace Plugin

open Text

namespace Standard

/-! ## Ways to build an instance -/

/-- A class without a module as yet. -/
abbrev Draft := Text → PluginClass

/-- A class whose instances serve no purpose, and are built in the given way. -/
def draft (name : String) (signature : Signature)
    (build : Option Text → Except SetupFault Plugin) : Draft :=
  fun home => { name := name.toList, home, signature, build }

/-- A class whose instances serve no purpose. -/
def inert (name : String) (signature : Signature) : Draft :=
  draft name signature fun _ => .ok { className := name.toList }

/-- A constructor of the class that takes the given arguments. -/
def constructor (name : String) (required : List String) (optional : Nat) : Signature :=
  .listed (name.toList ++ ".__init__".toList) (required.map String.toList) optional

/-- A class whose instances serve no purpose, with a constructor of its own. -/
def record (name : String) (required : List String) (optional : Nat) : Draft :=
  inert name (constructor name required optional)

/-- A class of named values, which is built from one of them. -/
def enumeration (name : String) (values : List Text) : Draft :=
  draft name (.listed "EnumType.__call__".toList ["value".toList] 0) fun argument =>
    let value := argument.getD []
    if values.contains value then .ok { className := name.toList }
    else .error (.badValue (quoted value ++ " is not a valid ".toList ++ name.toList))

/-- A class of exclusion rules. -/
def rule (name : String) (make : Text → Except SetupFault Exclusion) : Draft :=
  draft name (constructor name ["pattern"] 0) fun argument =>
    (make (argument.getD [])).map Plugin.ofExclusion

/-- A class of deliveries. -/
def strategy (name : String) (delivery : Delivery) : Draft :=
  draft name (constructor "DefaultRedirectStrategy" [] 1) fun _ => .ok (Plugin.ofDelivery delivery)

/-- What an integer is built from: a text that writes it. -/
def integerComplaint (text : Text) : IntegerFault → Text
  | .malformed => "invalid literal for int() with base 10: ".toList ++ (quoted text).take 200
  | .tooLong digits => digitLimitMessage digits

/-! ## The modules -/

/-- A module of the gate: its classes, the classes it takes from others, and its other names. -/
structure Home where
  name : String
  classes : List Draft := []
  borrowed : List String := []
  others : List String := []

/-- The modules at the core: requests, responses, errors and names. -/
def coreHomes : List Home := [
  { name := "core.correlation"
    classes := [record "CorrelatedLogger" ["logger"] 0, inert "CorrelationHeaders" .bare]
    others := ["correlation_context", "generate_correlation_id", "get_correlation_id"] },
  { name := "core.errors"
    classes := [inert "CasGateError" .free, inert "ConfigurationError" .free,
      record "RequestError" ["message"] 0] },
  { name := "core.protocol"
    classes := [enumeration "CasProtocol" (Protocol.all.map Protocol.name)] },
  { name := "core.request"
    classes := [inert "GateRequest" .interface, record "GateResponse" [] 4,
      record "SimpleGateRequest" ["url"] 3] },
  { name := "core.urls"
    classes := [record "LoginUrlConfig" ["first_part", "last_part", "full_url"] 0]
    borrowed := ["CasGateError", "ConfigurationError", "RequestError", "GateRequest"]
    others := ["construct_redirect_url", "construct_service_url", "parse_url", "replace_host",
      "rightmost_label", "upgrade_to_https", "_netloc", "_strip_parameter"] }]

/-- The names of the outcomes of a gate. -/
def stateNames : List Text :=
  ["excluded".toList, "authenticated".toList, "ticketed".toList, "gatewayed".toList,
    "bearer_token".toList, "needs_redirect".toList]

/-- The modules that decide and redirect. -/
def engineHomes : List Home := [
  { name := "engines.gate"
    classes := [
      draft "AuthenticationGate" (constructor "AuthenticationGate" ["config"] 0) fun _ =>
        .error (.escaped .missingOperation),
      draft "GateConfig" (constructor "GateConfig" ["login"] 9) fun _ =>
        .error (.refused .loginRequired),
      record "GateDecision" ["state"] 3, enumeration "GateState" stateNames]
    borrowed := ["CorrelatedLogger", "ConfigurationError", "CasProtocol", "GateRequest",
      "GateResponse", "LoginUrlConfig", "GatewayResolver", "SessionGatewayResolver",
      "DefaultRedirectStrategy", "RedirectStrategy", "LoginRedirect", "RedirectUrlBuilder",
      "UrlPatternMatcher"]
    others := ["CONST_CAS_ASSERTION", "LOGIN_URL_HEADER", "construct_service_url", "logger"] },
  { name := "engines.gateway"
    classes := [
      inert "GatewayResolver" .interface,
      draft "SessionGatewayResolver" (constructor "SessionGatewayResolver" [] 1) fun _ =>
        .ok (Plugin.ofResolver .standard),
      record "RedisGatewayResolver" ["redis_client"] 2,
      draft "NullGatewayResolver" .bare fun _ => .ok (Plugin.ofResolver .forgetful)]
    borrowed := ["RequestError", "GateRequest"]
    others := ["CONST_CAS_GATEWAY", "CONST_CAS_GATEWAY_SESSION_ID", "gateway_key"] },
  { name := "engines.redirect_strategy"
    classes := [
      inert "RedirectStrategy" .interface,
      strategy "DefaultRedirectStrategy" .standard,
      strategy "FacesCompatibleRedirectStrategy" (.faces Delivery.standardStatus),
      strategy "XhrRedirectStrategy" (.script Delivery.standardStatus)]
    borrowed := ["GateRequest", "GateResponse"] },
  { name := "engines.redirect_url"
    classes := [record "LoginRedirect" ["login_url", "redirect_url", "service_url"] 0,
      record "RedirectUrlBuilder" [] 1]
    borrowed := ["ConfigurationError", "RequestError", "LoginUrlConfig"]
    others := ["construct_redirect_url", "parse_url", "replace_host", "rightmost_label",
      "upgrade_to_https"] },
  { name := "engines.url_matcher"
    classes := [
      inert "UrlPatternMatcher" .interface,
      rule "ExactUrlPatternMatcher" fun url => .ok (.exact url),
      rule "ContainsUrlPatternMatcher" fun part => .ok (.contains part),
      rule "RegexUrlPatternMatcher" Exclusion.ofPattern]
    borrowed := ["ConfigurationError"]
    others := ["DEFAULT_PATTERN_TYPE", "MatcherFactory", "PATTERN_MATCHER_TYPES",
      "create_url_matcher", "load_class"] }]

/-- The module of the settings. -/
def settingsHome : Home :=
  { name := "config"
    classes := [
      draft "GateSettings" (.listed "BaseModel.__init__".toList [] 0) fun _ =>
        .error (.escaped (.raised "ValidationError".toList))]
    borrowed := ["ConfigurationError", "CasProtocol", "LoginUrlConfig", "GateConfig",
      "GatewayResolver", "SessionGatewayResolver", "DefaultRedirectStrategy", "RedirectStrategy",
      "UrlPatternMatcher"]
    others := ["PROPERTY_ALIASES", "build_gate_config", "create_url_matcher", "load_class",
      "logger"] }

/-- The module of the front door. -/
def middlewareHome : Home :=
  { name := "middleware.fastapi"
    classes := [record "CasAuthenticationMiddleware" ["app", "gate"] 1,
      record "StarletteGateRequest" ["request"] 0]
    borrowed := ["CorrelationHeaders", "GateResponse", "AuthenticationGate", "GateDecision"]
    others := ["correlation_context", "get_gate_decision", "to_starlette_response"] }

/-- The classes of a module, under the given top package. -/
def classesOf (package : Text) (home : Home) : List PluginClass :=
  home.classes.map (· (Catalogue.childName package home.name.toList))

/-- The classes of some modules, under the given top package. -/
def classesOfAll (package : Text) (homes : List Home) : List PluginClass :=
  homes.flatMap (classesOf package)

/-- A module that defines classes. -/
def homeModule (package : Text) (available : List PluginClass) (home : Home) : Module where
  name := Catalogue.childName package home.name.toList
  classes := classesOf package home ++
    available.filter fun found => (home.borrowed.map String.toList).contains found.name
  others := home.others.map String.toList

/-- The basic classes. -/
def basicModule : Module where
  name := "builtins".toList
  classes := [
    inert "str" .free,
    draft "int" .free fun argument =>
      match readInteger (argument.getD ['0']) with
      | .ok _ => .ok { className := "int".toList }
      | .error fault => .error (.badValue (integerComplaint (argument.getD []) fault)),
    inert "object" .bare].map (· "builtins".toList)

/-- The classes of the gate under a top package, and the basic classes. -/
def catalogue (package : Text) : Catalogue :=
  let inner := coreHomes ++ engineHomes ++ [settingsHome]
  let homes := inner ++ [middlewareHome]
  let contextNames := ["correlation_context", "generate_correlation_id", "get_correlation_id"]
  [ { name := package
      isPackage := true
      classes := classesOfAll package inner
      others := (contextNames ++ ["CONST_CAS_ASSERTION", "LOGIN_URL_HEADER", "build_gate_config",
        "construct_redirect_url", "construct_service_url", "create_url_matcher", "__all__",
        "__version__"]).map String.toList },
    { name := Catalogue.childName package "core".toList
      isPackage := true
      classes := classesOfAll package coreHomes
      others := (contextNames ++ ["__all__"]).map String.toList },
    { name := Catalogue.childName package "engines".toList
      isPackage := true
      classes := classesOfAll package engineHomes
      others := ["create_url_matcher".toList, "__all__".toList] },
    { name := Catalogue.childName package "middleware".toList
      isPackage := true
      classes := classesOf package middlewareHome
      others := ["get_gate_decision".toList, "__all__".toList] },
    basicModule ] ++ homes.map (homeModule package (classesOfAll package homes))

end Standard

end Plugin

end SignOnGate
