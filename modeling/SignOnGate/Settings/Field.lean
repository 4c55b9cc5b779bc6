import SignOnGate.Text.Basic

/-!
# The fields of the settings

Every setting has three spellings: the name of its field, the classic name of its property, and the
name of an environment variable, which is the name of the field in capitals behind a common start.
-/

namespace SignOnGate

/-- A setting. -/
inductive Field where
  | loginUrl
  | renew
  | gateway
  | exclusionRule
  | exclusionType
  | resolverClass
  | deliveryClass
  | protocol
  | service
  | serverName
  deriving Repr, DecidableEq

namespace Field

/-- All settings, in the order in which their problems are reported. -/
def all : List Field :=
  [loginUrl, renew, gateway, exclusionRule, exclusionType, resolverClass, deliveryClass, protocol,
    service, serverName]

/-- The name of a field. -/
def name : Field → Text
  | loginUrl => "cas_server_login_url".toList
  | renew => "renew".toList
  | gateway => "gateway".toList
  | exclusionRule => "ignore_pattern".toList
  | exclusionType => "ignore_url_pattern_type".toList
  | resolverClass => "gateway_storage_class".toList
  | deliveryClass => "authentication_redirect_strategy_class".toList
  | protocol => "protocol".toList
  | service => "service".toList
  | serverName => "server_name".toList

/-- The classic name of a property. -/
def property : Field → Text
  | loginUrl => "casServerLoginUrl".toList
  | renew => "renew".toList
  | gateway => "gateway".toList
  | exclusionRule => "ignorePattern".toList
  | exclusionType => "ignoreUrlPatternType".toList
  | resolverClass => "gatewayStorageClass".toList
  | deliveryClass => "authenticationRedirectStrategyClass".toList
  | protocol => "protocol".toList
  | service => "service".toList
  | serverName => "serverName".toList

/-- The name of a field without the first word that the common start of variables already says. -/
def shortName (field : Field) : Text :=
  if "cas_".toList.isPrefixOf field.name then field.name.drop 4 else field.name

/-- The name of the environment variable of a field, behind the common start. -/
def variableName (start : Text) (field : Field) : Text :=
  start ++ field.shortName.map Char.toUpper

/-- The field that a property names, in either spelling. -/
def ofProperty? (key : Text) : Option Field :=
  all.find? fun field => field.name = key || field.property = key

@[simp]
theorem mem_all (field : Field) : field ∈ all := by
  cases field <;> decide

@[simp]
theorem ofProperty?_name (field : Field) : ofProperty? field.name = some field := by
  cases field <;> rfl

@[simp]
theorem ofProperty?_property (field : Field) : ofProperty? field.property = some field := by
  cases field <;> rfl

end Field

end SignOnGate
