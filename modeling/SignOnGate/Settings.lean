import SignOnGate.Protocol
import SignOnGate.Settings.Field
import SignOnGate.Text.Blank
import SignOnGate.Text.Lower
import SignOnGate.Value

/-!
# Settings

The settings of a gate as plain data, read from properties or from environment variables. Reading
looks at every field and reports all problems together, in the order of the fields. Names that are
no setting are ignored.
-/

namespace SignOnGate

/-- What is wrong with the value of a setting. -/
inductive Problem where
  /-- There is no value. -/
  | missing
  /-- The value is not a text. -/
  | notText
  /-- The text is blank. -/
  | blank
  /-- The value is a word or a number that is neither true nor false. -/
  | notFlag
  /-- The value is of a kind that is neither true nor false. -/
  | notFlagKind
  /-- The value is no login protocol. -/
  | notProtocol
  deriving Repr, DecidableEq

/-- The word under which a problem is reported. -/
def Problem.name : Problem → Text
  | missing => "missing".toList
  | notText => "string_type".toList
  | blank => "value_error".toList
  | notFlag => "bool_parsing".toList
  | notFlagKind => "bool_type".toList
  | notProtocol => "enum".toList

/-- The settings of a gate. -/
structure Settings where
  loginUrl : Text
  renew : Bool
  gateway : Bool
  exclusionRule : Option Text
  exclusionType : Text
  resolverClass : Option Text
  deliveryClass : Option Text
  protocol : Protocol
  service : Option Text
  serverName : Option Text
  deriving Repr, DecidableEq

namespace Settings

open Text

/-! ## The value of one field -/

/-- The type of an exclusion rule, unless another one is set. -/
def standardExclusionType : Text := "REGEX".toList

/-- The words that set a flag. -/
def trueWords : List Text :=
  ["1".toList, "on".toList, "t".toList, "true".toList, "y".toList, "yes".toList]

/-- The words that clear a flag. -/
def falseWords : List Text :=
  ["0".toList, "off".toList, "f".toList, "false".toList, "n".toList, "no".toList]

/-- The flag that a word stands for, in letters of any case. -/
def flagOfWord (word : Text) : Except Problem Bool :=
  if lowerAscii word ∈ trueWords then .ok true
  else if lowerAscii word ∈ falseWords then .ok false
  else .error .notFlag

/-- The flag that a number stands for; a number outside sixty-four bits is not looked at. -/
def flagOfNumber (number : Int) : Except Problem Bool :=
  if number = 0 then .ok false
  else if number = 1 then .ok true
  else if -0x8000000000000000 ≤ number ∧ number < 0x8000000000000000 then .error .notFlag
  else .error .notFlagKind

/-- A flag, which is clear unless set. -/
def readFlag : Option Value → Except Problem Bool
  | none => .ok false
  | some (.bool flag) => .ok flag
  | some (.text word) => flagOfWord word
  | some (.int number) => flagOfNumber number
  | some (.decimal mantissa places) =>
    let unit := Value.unitOf places
    if mantissa % unit = 0 then flagOfNumber (mantissa / unit) else .error .notFlagKind
  | some _ => .error .notFlagKind

/-- The login URL, without the blanks around it. -/
def readLoginUrl : Option Value → Except Problem Text
  | none => .error .missing
  | some (.text text) => if isBlankText text then .error .blank else .ok (strip text)
  | some _ => .error .notText

/-- A text that may be missing; a blank one is as good as missing. -/
def readText : Option Value → Except Problem (Option Text)
  | none => .ok none
  | some .null => .ok none
  | some (.text text) => .ok (if isBlankText text then none else some text)
  | some _ => .error .notText

/-- The type of the exclusion rule. -/
def readExclusionType : Option Value → Except Problem Text
  | none => .ok standardExclusionType
  | some (.text text) => .ok text
  | some _ => .error .notText

/-- The login protocol. -/
def readProtocol : Option Value → Except Problem Protocol
  | none => .ok .cas2
  | some (.text text) =>
    match Protocol.ofName? (keyword (strip text)) with
    | some protocol => .ok protocol
    | none => .error .notProtocol
  | some _ => .error .notProtocol

/-! ## All fields -/

/-- Values of settings by field. -/
abbrev Values := OrderedMap Field Value

/-- The problem of a reading, if it has one. -/
def problemOf {α : Type} : Except Problem α → Option Problem
  | .ok _ => none
  | .error problem => some problem

/-- The problem with the value of a field, if there is one. -/
def problem? (values : Values) (field : Field) : Option Problem :=
  let value := values.get? field
  match field with
  | .loginUrl => problemOf (readLoginUrl value)
  | .renew | .gateway => problemOf (readFlag value)
  | .exclusionType => problemOf (readExclusionType value)
  | .protocol => problemOf (readProtocol value)
  | .exclusionRule | .resolverClass | .deliveryClass | .service | .serverName =>
    problemOf (readText value)

/-- All problems with the values, in the order of the fields. -/
def problems (values : Values) : List (Field × Problem) :=
  Field.all.filterMap fun field => (problem? values field).map (field, ·)

/-- The settings that values stand for, up to the first problem. -/
def ofValues (values : Values) : Except Problem Settings := do
  return {
    loginUrl := ← readLoginUrl (values.get? .loginUrl)
    renew := ← readFlag (values.get? .renew)
    gateway := ← readFlag (values.get? .gateway)
    exclusionRule := ← readText (values.get? .exclusionRule)
    exclusionType := ← readExclusionType (values.get? .exclusionType)
    resolverClass := ← readText (values.get? .resolverClass)
    deliveryClass := ← readText (values.get? .deliveryClass)
    protocol := ← readProtocol (values.get? .protocol)
    service := ← readText (values.get? .service)
    serverName := ← readText (values.get? .serverName) }

/-- The settings that values stand for, or all problems with them. -/
def read (values : Values) : Except (List (Field × Problem)) Settings :=
  match ofValues values with
  | .ok settings => .ok settings
  | .error _ => .error (problems values)

/-- The values in properties. Of several spellings of a field, the last key counts. -/
def valuesOfProperties (properties : List (Text × Value)) : Values :=
  .ofPairs ((OrderedMap.ofPairs properties).entries.filterMap fun entry =>
    (Field.ofProperty? entry.1).map (·, entry.2))

/-- The values in environment variables whose names begin with the given text. -/
def valuesOfEnvironment (start : Text) (environment : List (Text × Text)) : Values :=
  .ofPairs (Field.all.filterMap fun field =>
    ((OrderedMap.ofPairs environment).get? (field.variableName start)).map (field, .text ·))

/-- The common start of environment variables, unless another one is given. -/
def standardStart : Text := "CAS_".toList

/-- The settings in properties. -/
def ofProperties (properties : List (Text × Value)) : Except (List (Field × Problem)) Settings :=
  read (valuesOfProperties properties)

/-- The settings in environment variables. -/
def ofEnvironment (start : Text) (environment : List (Text × Text)) :
    Except (List (Field × Problem)) Settings :=
  read (valuesOfEnvironment start environment)

end Settings

end SignOnGate
