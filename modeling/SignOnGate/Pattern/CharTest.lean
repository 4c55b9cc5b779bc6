import SignOnGate.Text.Blank
import SignOnGate.Text.Capital
import SignOnGate.Text.WordTable

/-!
# Tests of a single character

What a pattern can ask of one character: to be a given one, to lie in a set, to belong to one of
three classes. A test may ignore case, either among the ASCII letters only or in all of Unicode.
Patterns may name any code point, so tests work on numbers.
-/

namespace SignOnGate

namespace Pattern

open Text

/-- How a test treats case. -/
inductive CaseMode where
  | exact
  | ignoreAscii
  | ignore
  deriving Repr, DecidableEq

/-- The classes that a pattern can name. -/
inductive ClassName where
  | digit
  | space
  | word
  deriving Repr, DecidableEq

/-- An element of a set. -/
inductive SetItem where
  | single (code : Nat)
  | range (low high : Nat)
  | named (name : ClassName) (negated ascii : Bool)
  deriving Repr, DecidableEq

/-- A test of a single character. -/
inductive CharTest where
  | literal (negated : Bool) (code : Nat) (mode : CaseMode)
  | any (lineEnds : Bool)
  | set (negated : Bool) (items : List SetItem) (mode : CaseMode)
  deriving Repr, DecidableEq

/-! ## Classes -/

/-- A decimal digit. -/
def isDigitCode (ascii : Bool) (code : Nat) : Bool :=
  if ascii then 0x30 ≤ code && code ≤ 0x39 else inRanges decimalRanges code

/-- A blank. -/
def isSpaceCode (ascii : Bool) (code : Nat) : Bool :=
  if ascii then (0x09 ≤ code && code ≤ 0x0D) || code == 0x20 else isBlank (Char.ofNat code)

/-- A letter, a digit or the low line. -/
def isWordCode (ascii : Bool) (code : Nat) : Bool :=
  code == 0x5F ||
    if ascii then (Char.ofNat code).isAlphanum else inRanges alphanumericRanges code

/-- Whether a code point belongs to a class. -/
def ClassName.holds (name : ClassName) (ascii : Bool) (code : Nat) : Bool :=
  match name with
  | digit => isDigitCode ascii code
  | space => isSpaceCode ascii code
  | word => isWordCode ascii code

/-! ## Case -/

/-- Small letters that are forms of one another beside their capitals. -/
def variantForms : List (List Nat) := [
  [0x69, 0x131], [0x73, 0x17F], [0xB5, 0x3BC], [0x345, 0x3B9, 0x1FBE], [0x390, 0x1FD3],
  [0x3B0, 0x1FE3], [0x3B2, 0x3D0], [0x3B5, 0x3F5], [0x3B8, 0x3D1], [0x3BA, 0x3F0], [0x3C0, 0x3D6],
  [0x3C1, 0x3F1], [0x3C2, 0x3C3], [0x3C6, 0x3D5], [0x432, 0x1C80], [0x434, 0x1C81],
  [0x43E, 0x1C82], [0x441, 0x1C83], [0x442, 0x1C84, 0x1C85], [0x44A, 0x1C86], [0x463, 0x1C87],
  [0x1C88, 0xA64B], [0x1E61, 0x1E9B], [0xFB05, 0xFB06]]

/-- A code point and its variant forms. -/
def withVariants (code : Nat) : List Nat :=
  (variantForms.find? (·.contains code)).getD [code]

/-- The code point that stands for all that differ from it in case only. -/
def CaseMode.fold (mode : CaseMode) (code : Nat) : Nat :=
  match mode with
  | exact => code
  | ignoreAscii => if 0x41 ≤ code ∧ code ≤ 0x5A then code + 0x20 else code
  | ignore => simpleLower code

/-- The code points that fold to the given one. -/
def CaseMode.sources (mode : CaseMode) (code : Nat) : List Nat :=
  match mode with
  | exact => [code]
  | ignoreAscii =>
    if 0x61 ≤ code ∧ code ≤ 0x7A then [code, code - 0x20]
    else if 0x41 ≤ code ∧ code ≤ 0x5A then []
    else [code]
  | ignore => simpleLowerSources code

/-- The code points that a folded one is taken for. -/
def CaseMode.equals (mode : CaseMode) (code : Nat) : List Nat :=
  match mode with
  | ignore => withVariants code
  | _ => [code]

/-- Whether a code point stands for others as well in a mode. -/
def CaseMode.isCased (mode : CaseMode) (code : Nat) : Bool :=
  match mode with
  | exact => false
  | ignoreAscii => (0x41 ≤ code && code ≤ 0x5A) || (0x61 ≤ code && code ≤ 0x7A)
  | ignore => hasCase code

/-- Whether some code point of a range stands for others as well in a mode. -/
def CaseMode.isCasedWithin (mode : CaseMode) (low high : Nat) : Bool :=
  match mode with
  | exact => false
  | ignoreAscii => (low ≤ 0x5A && 0x41 ≤ high) || (low ≤ 0x7A && 0x61 ≤ high)
  | ignore => hasCaseWithin low high

/-! ## Tests -/

/-- Whether a code point is outside the basic plane. -/
def isSupplementary (code : Nat) : Bool :=
  0xFFFF < code

/--
Whether a folded code point matches an element of a set. A single letter outside the basic plane
stands for itself only, and a range that reaches beyond the plane is searched for the small letter
and for its capital.
-/
def SetItem.holds (item : SetItem) (mode : CaseMode) (code : Nat) : Bool :=
  match item with
  | single other =>
    if isSupplementary other then code == other
    else (mode.equals (mode.fold other)).contains code
  | range low high =>
    let inRange (code : Nat) : Bool := low ≤ code && code ≤ high
    if mode = .exact then inRange code
    else
      (mode.equals code).any (fun form =>
        (mode.sources form).any fun source => inRange source && !isSupplementary source) ||
      (isSupplementary high && (inRange code || inRange (capitalHead code)))
  | named name negated ascii => name.holds ascii code != negated

/-- Whether a character passes a test. -/
def CharTest.holds (test : CharTest) (code : Nat) : Bool :=
  match test with
  | literal negated other mode =>
    (mode.equals (mode.fold other)).contains (mode.fold code) != negated
  | any lineEnds => lineEnds || code != 0x0A
  | set negated items mode => items.any (·.holds mode (mode.fold code)) != negated

/-! ## Kinds of tests -/

/-- Whether an element of a set makes the set look at folded characters. -/
def SetItem.isCased (item : SetItem) (mode : CaseMode) : Bool :=
  match item with
  | single code => mode != .exact && (isSupplementary code || mode.isCased code)
  | range low high => mode != .exact && (isSupplementary high || mode.isCasedWithin low high)
  | named _ _ _ => false

/-- Whether a test looks for a folded character among several. -/
def CharTest.isFolded : CharTest → Bool
  | literal _ code mode => mode.isCased code && 1 < (mode.equals (mode.fold code)).length
  | any _ => false
  | set _ items mode => items.any (·.isCased mode)

/-- The only code point that passes a test which is a plain comparison. -/
def CharTest.code? : CharTest → Option Nat
  | literal false code mode => if mode.isCased code then none else some code
  | _ => none

/-- Whether a test looks for the character itself, at one code point or in a set. -/
def CharTest.isPlain : CharTest → Bool
  | literal negated code mode => !negated && !mode.isCased code
  | any _ => false
  | set _ items mode => !items.any (·.isCased mode)

end Pattern

end SignOnGate
