import SignOnGate.Text.Blank
import SignOnGate.Text.WordTable

/-!
# Integers in text

An integer is written with decimal digits of any script. A sign may stand in front of it, spaces
around it, and single low lines between its digits. Numbers with very many digits are not read.
-/

namespace SignOnGate

namespace Text

/-- Numbers with more digits are not read. -/
def digitLimit : Nat := 4300

/-- The complaint about a number with too many digits. -/
def digitLimitMessage (digits : Nat) : Text :=
  "Exceeds the limit (4300 digits) for integer string conversion: value has ".toList ++
    ofNat digits ++ " digits; use sys.set_int_max_str_digits() to increase the limit".toList

/-- The value of a decimal digit of any script. -/
def decimalValue? (char : Char) : Option Nat :=
  (decimalRanges.find? fun range => range.1 ≤ char.toNat && char.toNat ≤ range.2).map
    fun range => (char.toNat - range.1) % 10

/-- Why a text is no integer. -/
inductive IntegerFault where
  /-- The text is not written like an integer. -/
  | malformed
  /-- The integer has too many digits to be read. -/
  | tooLong (digits : Nat)
  deriving Repr, DecidableEq

/-- A blank that may stand around an integer: any but the information separators. -/
def isIntegerSpace (char : Char) : Bool :=
  isBlank char && !(0x1C ≤ char.toNat && char.toNat ≤ 0x1F)

/-- A character inside an integer. -/
def isIntegerChar (char : Char) : Bool :=
  char == '_' || (decimalValue? char).isSome

/-- Whether an integer is negative, and the text behind its sign. -/
def signOf : Text → Bool × Text
  | '-' :: rest => (true, rest)
  | '+' :: rest => (false, rest)
  | rest => (false, rest)

/-- The integer that a text writes. -/
def readInteger (text : Text) : Except IntegerFault Int :=
  let (negative, rest) := signOf (text.dropWhile isIntegerSpace)
  let body := rest.takeWhile isIntegerChar
  let digits := body.filterMap decimalValue?
  if (pieces '_' body).any (·.isEmpty) then .error .malformed
  else if digitLimit < digits.length then .error (.tooLong digits.length)
  else if (rest.dropWhile isIntegerChar).all isIntegerSpace then
    let number : Nat := digits.foldl (fun value digit => value * 10 + digit) 0
    .ok (if negative then -(number : Int) else number)
  else .error .malformed

end Text

end SignOnGate
