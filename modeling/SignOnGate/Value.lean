import SignOnGate.OrderedMap
import SignOnGate.Text.Quoted

/-!
# Values

The values that sessions and property maps hold: whatever a JSON document can say. A value has a
truth (`isSet`), and a text form in which it becomes part of a key (`display`).
-/

namespace SignOnGate

/-- A JSON value. A number written with a fraction is kept as a mantissa and a count of places. -/
inductive Value where
  | null
  | bool (value : Bool)
  | int (value : Int)
  | decimal (mantissa : Int) (places : Nat)
  | text (value : Text)
  | list (items : List Value)
  | map (entries : List (Text × Value))
  deriving Repr

namespace Value

/-- Whether a value counts as set: neither null, false, zero nor empty. -/
def isSet : Value → Bool
  | null => false
  | bool value => value
  | int value => value != 0
  | decimal mantissa _ => mantissa != 0
  | text value => !value.isEmpty
  | list items => !items.isEmpty
  | map entries => !entries.isEmpty

/-- How often the last of so many decimal places goes into one. -/
def unitOf (places : Nat) : Nat :=
  Nat.pow 10 places

/-- The digits of a number without the zeros at their end. -/
def significant (digits : Text) : Text :=
  (digits.reverse.dropWhile (· == '0')).reverse

/--
Digits with a point behind so many of them. A side of the point that has no digits has a zero.
-/
def positional (digits : Text) (point : Int) : Text :=
  if point ≤ 0 then "0.".toList ++ List.replicate point.natAbs '0' ++ digits
  else
    let whole := digits.take point.toNat
    let fraction := digits.drop point.toNat
    whole ++ List.replicate (point.toNat - whole.length) '0' ++
      '.' :: if fraction = [] then ['0'] else fraction

/-- Digits with a point behind the first one, if more follow, and a power of ten behind them all. -/
def scientific (digits : Text) (power : Int) : Text :=
  let fraction := digits.drop 1
  let number := Text.ofNat power.natAbs
  digits.take 1 ++ (if fraction = [] then [] else '.' :: fraction) ++
    ['e', if power < 0 then '-' else '+'] ++ List.replicate (2 - number.length) '0' ++ number

/--
A number with a fraction: its digits up to the last one that is not zero and, if the number is very
large or very small, a power of ten. The number is taken as it is written. It is not rounded to a
binary one, which would show behind the fifteenth digit, and a zero has no sign.
-/
def displayDecimal (mantissa : Int) (places : Nat) : Text :=
  let digits := Text.ofNat mantissa.natAbs
  let point : Int := digits.length - places
  if mantissa = 0 then "0.0".toList
  else
    (if mantissa < 0 then ['-'] else []) ++
      if -4 < point ∧ point ≤ 16 then positional (significant digits) point
      else scientific (significant digits) (point - 1)

/-- The words for truth, falsehood and absence. -/
def displayBool (value : Bool) : Text :=
  if value then "True".toList else "False".toList

mutual

/-- The text form of a value inside a list or a map. -/
def literal : Value → Text
  | null => "None".toList
  | bool value => displayBool value
  | int value => Text.ofInt value
  | decimal mantissa places => displayDecimal mantissa places
  | text value => Text.quoted value
  | list items => '[' :: Text.joined ", ".toList (literals items) ++ [']']
  | map entries => '\x7b' :: Text.joined ", ".toList (literalEntries entries) ++ ['\x7d']

/-- The text forms of the items of a list. -/
def literals : List Value → List Text
  | [] => []
  | item :: rest => literal item :: literals rest

/-- The text forms of the entries of a map. -/
def literalEntries : List (Text × Value) → List Text
  | [] => []
  | (key, value) :: rest => (Text.quoted key ++ ": ".toList ++ literal value) :: literalEntries rest

end

/-- The text form of a value: a text is its own form. -/
def display : Value → Text
  | text value => value
  | other => literal other

end Value

end SignOnGate
