import SignOnGate.Proofs.Text.Ascii
import SignOnGate.Proofs.Text.Utf16
import SignOnGate.Text.JsonString

/-!
# Reading JSON

A strict reader of JSON documents, and what it makes of the strings that are written here. A string
is read as UTF-16 units first, since an escape names a unit and not a character; the units are put
together to characters behind it. So two escapes are one character where they form a pair, and only
there, whatever stands next to them.
-/

namespace SignOnGate

/-- The value of a JSON document. Numbers are kept as they are written. -/
inductive Json where
  | null
  | bool (value : Bool)
  | number (written : Text)
  | string (value : Text)
  | array (items : List Json)
  | object (members : List (Text × Json))

namespace Json

/-! ## Tokens -/

/-- The text behind the blanks that may stand between two tokens. -/
def skip (text : Text) : Text :=
  text.dropWhile fun char => [' ', '\t', '\n', '\r'].contains char

/-- The escapes of one letter or mark, each with the unit that it stands for. -/
def shortEscapes : List (Char × Nat) :=
  [('"', 0x22), ('\\', 0x5C), ('/', 0x2F), ('b', 0x08), ('f', 0x0C), ('n', 0x0A), ('r', 0x0D),
    ('t', 0x09)]

/-- Where the reader of a string stands: between characters, behind a backslash, or behind the
first digits of a unit. -/
inductive Standing where
  | between
  | escaping
  | inUnit (digits : Text)

/-- What was read, with more units in front. -/
def precededBy (units : List Nat) (read : Option (List Nat × Text)) : Option (List Nat × Text) :=
  read.map fun (others, rest) => (units ++ others, rest)

/-- Reads the units of a string and its closing quote. -/
def readUnits : Standing → Text → Option (List Nat × Text)
  | _, [] => none
  | .between, char :: rest =>
    if char = '"' then some ([], rest)
    else if char = '\\' then readUnits .escaping rest
    else if char.toNat < 0x20 then none
    else precededBy (Utf16.encodeChar char) (readUnits .between rest)
  | .escaping, char :: rest =>
    if char = 'u' then readUnits (.inUnit []) rest
    else (shortEscapes.lookup char).bind fun unit => precededBy [unit] (readUnits .between rest)
  | .inUnit digits, char :: rest =>
    if Text.isHexDigit char then
      if digits.length < 3 then readUnits (.inUnit (digits ++ [char])) rest
      else precededBy [Text.digitsValue 16 (digits ++ [char])] (readUnits .between rest)
    else none

/-- Reads a string from behind its opening quote. -/
def readString (text : Text) : Option (Text × Text) :=
  (readUnits .between text).bind fun (units, rest) =>
    (Utf16.decode units).map fun value => (value, rest)

/-- Whether a text consists of digits, of at least one. -/
def areDigits (text : Text) : Bool :=
  text != [] && text.all Char.isDigit

/--
Whether a text is a number: digits that do not begin with a needless zero, perhaps behind a minus
sign, and perhaps a fraction and an exponent.
-/
def isNumber (text : Text) : Bool :=
  let unsigned := if text.head? = some '-' then text.drop 1 else text
  let whole := unsigned.takeWhile Char.isDigit
  let fraction := (unsigned.drop whole.length).takeWhile fun char => char != 'e' && char != 'E'
  let exponent := unsigned.drop (whole.length + fraction.length)
  areDigits whole && (whole == ['0'] || whole.head? != some '0') &&
    (match fraction with
    | [] => true
    | point :: digits => point == '.' && areDigits digits) &&
    match exponent with
    | [] => true
    | [_] => false
    | _ :: sign :: digits =>
      if sign = '+' ∨ sign = '-' then areDigits digits else areDigits (sign :: digits)

/-- Reads a number: all characters that a number may have, if they are one. -/
def readNumber (text : Text) : Option (Json × Text) :=
  let written := text.takeWhile fun char => char.isDigit || ['-', '+', '.', 'e', 'E'].contains char
  if isNumber written then some (number written, text.drop written.length) else none

/-- The values that are written by a name. -/
def literals : List (Text × Json) :=
  [("null".toList, null), ("true".toList, bool true), ("false".toList, bool false)]

/-- Reads a value that is written by a name. -/
def readLiteral (text : Text) : Option (Json × Text) :=
  (literals.find? fun literal => literal.1.isPrefixOf text).map fun literal =>
    (literal.2, text.drop literal.1.length)

/-! ## Documents -/

variable {Item : Type}

/-- Reads items and commas up to a closing mark. The count bounds the number of items. -/
def readItems (item : Text → Option (Item × Text)) (closing : Char) :
    Nat → Text → Option (List Item × Text)
  | 0, _ => none
  | count + 1, text =>
    (item text).bind fun (first, behind) =>
      match skip behind with
      | [] => none
      | mark :: rest =>
        if mark = closing then some ([first], rest)
        else if mark = ',' then
          (readItems item closing count rest).map fun (others, rest) => (first :: others, rest)
        else none

/-- Reads a sequence of items from behind its opening mark. -/
def readSequence (item : Text → Option (Item × Text)) (closing : Char) (text : Text) :
    Option (List Item × Text) :=
  if (skip text).head? = some closing then some ([], (skip text).drop 1)
  else readItems item closing text.length text

/-- Reads a member of an object: its name in quotes, a colon, and its value. -/
def readMember (value : Text → Option (Json × Text)) (text : Text) :
    Option ((Text × Json) × Text) :=
  match skip text with
  | [] => none
  | mark :: rest =>
    if mark = '"' then
      (readString rest).bind fun (name, behind) =>
        match skip behind with
        | [] => none
        | mark :: rest =>
          if mark = ':' then (value rest).map fun (value, rest) => ((name, value), rest) else none
    else none

/-- Reads a value that is nested no deeper than the given depth. -/
def readValue : Nat → Text → Option (Json × Text)
  | 0, _ => none
  | depth + 1, text =>
    match skip text with
    | [] => none
    | mark :: rest =>
      if mark = '"' then (readString rest).map fun (value, rest) => (string value, rest)
      else if mark = '[' then
        (readSequence (readValue depth) ']' rest).map fun (items, rest) => (array items, rest)
      else if mark = '\x7b' then
        (readSequence (readMember (readValue depth)) '\x7d' rest).map fun (members, rest) =>
          (object members, rest)
      else (readLiteral (mark :: rest)).or (readNumber (mark :: rest))

/-- The value of a document, of which nothing may be left but blanks. A value is nested no deeper
than its text is long. -/
def parse (document : Text) : Option Json :=
  (readValue document.length document).bind fun (value, rest) =>
    if skip rest = [] then some value else none

/-! ## Strings that were written -/

variable {char : Char} {rest : Text}

@[simp]
theorem precededBy_precededBy (first second : List Nat) (read : Option (List Nat × Text)) :
    precededBy first (precededBy second read) = precededBy (first ++ second) read := by
  cases read with
  | none => rfl
  | some read => simp [precededBy]

theorem readUnits_shortEscape {mark : Char} (notUnit : mark ≠ 'u')
    (known : shortEscapes.lookup mark = some char.toNat) (bound : char.toNat < 0x10000)
    (rest : Text) :
    readUnits .between ('\\' :: mark :: rest) =
      precededBy (Utf16.encodeChar char) (readUnits .between rest) := by
  simp [readUnits, notUnit, known, Utf16.encodeChar, bound]

/-- An escaped unit is read as that unit, whatever stands behind it. -/
theorem readUnits_escapeUnit {unit : Nat} (bound : unit < 0x10000) (rest : Text) :
    readUnits .between (JsonString.escapeUnit unit ++ rest) =
      precededBy [unit] (readUnits .between rest) := by
  have digits : ∀ char ∈ Text.ofHex 4 unit, Text.isHexDigit char = true :=
    fun char => Text.isHexDigit_of_mem_ofHex
  have value : Text.digitsValue 16 (Text.ofHex 4 unit) = unit := Text.digitsValue_ofHex bound
  have four : (Text.ofHex 4 unit).length = 4 := Text.length_ofHex 4 unit
  rw [JsonString.escapeUnit]
  -- the reader collects digit after digit, so that the digits have to be told apart
  generalize Text.ofHex 4 unit = written at digits value four
  match written, four with
  | [first, second, third, fourth], _ =>
    simp only [List.mem_cons, List.not_mem_nil, or_false, forall_eq_or_imp, forall_eq] at digits
    rcases digits with ⟨isFirst, isSecond, isThird, isFourth⟩
    simp [readUnits, isFirst, isSecond, isThird, isFourth, value]

/-- A character is read as its units, whatever stands behind it. -/
theorem readUnits_encodeChar (char : Char) (rest : Text) :
    readUnits .between (JsonString.encodeChar char ++ rest) =
      precededBy (Utf16.encodeChar char) (readUnits .between rest) := by
  have valid : char.toNat < 0xD800 ∨ 0xDFFF < char.toNat ∧ char.toNat < 0x110000 := char.valid
  simp only [JsonString.encodeChar]
  split_ifs with marked newline carriageReturn tab backspace formFeed printable single
  · rcases marked with rfl | rfl
    · exact readUnits_shortEscape (by decide) rfl (by decide) rest
    · exact readUnits_shortEscape (by decide) rfl (by decide) rest
  · subst newline
    exact readUnits_shortEscape (by decide) rfl (by decide) rest
  · subst carriageReturn
    exact readUnits_shortEscape (by decide) rfl (by decide) rest
  · subst tab
    exact readUnits_shortEscape (by decide) rfl (by decide) rest
  · exact readUnits_shortEscape (by decide) (by rw [backspace]; rfl) (by omega) rest
  · exact readUnits_shortEscape (by decide) (by rw [formFeed]; rfl) (by omega) rest
  · have noControl : ¬char.toNat < 0x20 := by omega
    simp only [not_or] at marked
    simp [readUnits, marked, noControl]
  · rw [readUnits_escapeUnit single, Utf16.encodeChar, if_pos single]
  -- the two surrogates are read as two units, like escapes that were written next to each other
  · rw [List.append_assoc, readUnits_escapeUnit (by omega), readUnits_escapeUnit (by omega),
      precededBy_precededBy, Utf16.encodeChar, if_neg single, List.singleton_append]

theorem readUnits_flatMap_encodeChar (text rest : Text) :
    readUnits .between (text.flatMap JsonString.encodeChar ++ '"' :: rest) =
      some (text.flatMap Utf16.encodeChar, rest) := by
  induction text with
  | nil => simp [readUnits]
  | cons head tail ih =>
      rw [List.flatMap_cons, List.append_assoc, readUnits_encodeChar, ih]
      rfl

theorem readString_encode (text rest : Text) :
    readString (text.flatMap JsonString.encodeChar ++ '"' :: rest) = some (text, rest) := by
  simp only [readString, readUnits_flatMap_encodeChar, Option.bind_some,
    Utf16.decode_flatMap_encodeChar, Option.map_some]

/-! ## Documents that were written -/

theorem skip_cons (notBlank : char ∉ [' ', '\t', '\n', '\r']) (rest : Text) :
    skip (char :: rest) = char :: rest := by
  rw [skip, List.dropWhile_cons_of_neg]
  simpa using notBlank

theorem readValue_space (depth : Nat) (rest : Text) :
    readValue depth (' ' :: rest) = readValue depth rest := by
  cases depth with
  | zero => rfl
  | succ depth => simp [readValue, skip]

theorem readValue_encode (depth : Nat) (text rest : Text) :
    readValue (depth + 1) (JsonString.encode text ++ rest) = some (string text, rest) := by
  have read := readString_encode text rest
  simp [readValue, JsonString.encode, skip_cons, read]

theorem readMember_encode (depth : Nat) (name value rest : Text) :
    readMember (readValue (depth + 1))
        (JsonString.encode name ++ ':' :: ' ' :: JsonString.encode value ++ rest) =
      some ((name, string value), rest) := by
  have readName := readString_encode name (':' :: ' ' :: JsonString.encode value ++ rest)
  have readBehind := readValue_space (depth + 1) (JsonString.encode value ++ rest)
  rw [readValue_encode] at readBehind
  simp only [JsonString.encode, List.cons_append, List.append_assoc, List.nil_append] at *
  simp [readMember, skip_cons, readName, readBehind]

theorem readSequence_single {item : Text → Option (Item × Text)} {closing head : Char} {tail : Text}
    {first : Item} (notBlank : head ∉ [' ', '\t', '\n', '\r']) (notClosing : head ≠ closing)
    (closingNotBlank : closing ∉ [' ', '\t', '\n', '\r'])
    (read : item (head :: tail) = some (first, closing :: rest)) :
    readSequence item closing (head :: tail) = some ([first], rest) := by
  simp [readSequence, skip_cons notBlank, notClosing, readItems, read, skip_cons closingNotBlank]

theorem readValue_object (depth : Nat) (rest : Text) :
    readValue (depth + 1) ('\x7b' :: rest) =
      (readSequence (readMember (readValue depth)) '\x7d' rest).map fun (members, rest) =>
        (object members, rest) := by
  simp [readValue, skip_cons]

/-- An object with one member, a string, is read as it was written. -/
theorem parse_member (name value : Text) :
    parse ('\x7b' :: JsonString.encode name ++ ':' :: ' ' :: JsonString.encode value ++ ['\x7d']) =
      some (object [(name, string value)]) := by
  have member (depth : Nat) := readMember_encode depth name value ['\x7d']
  simp only [JsonString.encode, List.cons_append] at member ⊢
  have members (depth : Nat) :=
    readSequence_single (by decide) (by decide) (by decide) (member depth)
  rw [parse, List.length_cons, readValue_object, List.length_cons, members]
  rfl

example :
    parse "\x7b\"a\" : [-1.5e3, true ] , \"b\":\x7b\x7d, \"c\":\"\\ud83d\\uDE00\"\x7d ".toList =
    some (object [("a".toList, array [number "-1.5e3".toList, bool true]),
      ("b".toList, object []), ("c".toList, string [Char.ofNat 0x1F600])]) :=
  rfl

example : parse "[1,]".toList = none ∧ parse "01".toList = none ∧ parse "\"\n\"".toList = none ∧
    parse "\"\\ude00\"".toList = none ∧ parse "null null".toList = none :=
  ⟨rfl, rfl, rfl, rfl, rfl⟩

end Json

namespace JsonString

theorem isAscii_of_mem_escapeUnit {unit : Nat} {char : Char} (member : char ∈ escapeUnit unit) :
    Text.isAscii char = true := by
  simp only [escapeUnit, List.mem_cons] at member
  rcases member with rfl | rfl | digit
  · rfl
  · rfl
  · exact Text.isAscii_of_isHexDigit (Text.isHexDigit_of_mem_ofHex digit)

/-- A character is written in ASCII. -/
theorem isAscii_of_mem_encodeChar (source : Char) :
    ∀ char ∈ encodeChar source, Text.isAscii char = true := by
  simp only [encodeChar]
  split_ifs with marked newline carriageReturn tab backspace formFeed printable single
  · rcases marked with rfl | rfl <;> simp [Text.isAscii]
  · simp [Text.isAscii]
  · simp [Text.isAscii]
  · simp [Text.isAscii]
  · simp [Text.isAscii]
  · simp [Text.isAscii]
  · intro char member
    rw [List.mem_singleton.mp member]
    simp only [Text.isAscii, decide_eq_true_eq]
    omega
  · exact fun char => isAscii_of_mem_escapeUnit
  · intro char member
    rcases List.mem_append.mp member with high | low
    · exact isAscii_of_mem_escapeUnit high
    · exact isAscii_of_mem_escapeUnit low

theorem isAscii_of_mem_encode {text : Text} :
    ∀ char ∈ encode text, Text.isAscii char = true := by
  intro char member
  simp only [encode, List.cons_append, List.mem_cons, List.mem_append, List.mem_flatMap,
    List.not_mem_nil, or_false] at member
  rcases member with rfl | ⟨source, -, inSource⟩ | rfl
  · rfl
  · exact isAscii_of_mem_encodeChar source char inSource
  · rfl

end JsonString

end SignOnGate
