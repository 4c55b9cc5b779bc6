import SignOnGate.Text.Basic
import SignOnGate.Text.Ranges
import SignOnGate.Text.CaseTable
import SignOnGate.Text.CaseContextTable

/-!
# Lower case

Full lower-casing of Unicode 14: every character has a small form of one or two characters, and a
capital sigma takes its final form at the end of a word. `keyword` folds the other way, for the
handful of words that are looked up without regard to case.
-/

namespace SignOnGate

namespace Text

/-- The single code point that a code point moves to when its case is ignored. -/
def simpleLower (code : Nat) : Nat :=
  if code = 0x130 then 0x69
  else
    match caseRuns.find? (·.holds code) with
    | some run => ((code : Int) + run.offset).toNat
    | none => code

/-- The code points that move to the given one, itself included when it stays in place. -/
def simpleLowerSources (code : Nat) : List Nat :=
  let moved := (caseRuns.filter (·.reaches code)).map fun run => ((code : Int) - run.offset).toNat
  let dotted := if code = 0x69 then [0x130] else []
  let fixed := if simpleLower code = code then [code] else []
  fixed ++ dotted ++ moved

/-- The small form of a character, away from the end of a word. -/
def lowerChar (char : Char) : Text :=
  if char.toNat = 0x130 then ['i', '\u0307']
  else [Char.ofNat (simpleLower char.toNat)]

/-- A cased character that is not skipped while looking for one. -/
def isCased (char : Char) : Bool :=
  inRanges casedRanges char.toNat

/-- A character that is skipped while looking for a cased one. -/
def isCaseIgnorable (char : Char) : Bool :=
  inRanges caseIgnorableRanges char.toNat

/-- Whether the first character that is not skipped is cased. -/
def startsCased : Text → Bool
  | [] => false
  | head :: rest => if isCaseIgnorable head then startsCased rest else isCased head

/-- The small form of a text; `inWord` tells whether a cased character stands in front of it. -/
def lowerFrom (inWord : Bool) : Text → Text
  | [] => []
  | head :: rest =>
    (if head = 'Σ' then [if inWord && !startsCased rest then 'ς' else 'σ'] else lowerChar head) ++
      lowerFrom (if isCaseIgnorable head then inWord else isCased head) rest

/-- The small form of a text. -/
def lower (text : Text) : Text :=
  lowerFrom false text

/-- Whether two texts have the same small form. -/
def sameIgnoringCase (left right : Text) : Bool :=
  lower left == lower right

@[simp]
theorem lower_nil : lower [] = [] := rfl

/-- The capital form of a character when that form is ASCII; every other character is kept. -/
def keywordChar (char : Char) : Text :=
  match char with
  | 'ß' => "SS".toList
  | 'ı' => ['I']
  | 'ſ' => ['S']
  | 'ﬀ' => "FF".toList
  | 'ﬁ' => "FI".toList
  | 'ﬂ' => "FL".toList
  | 'ﬃ' => "FFI".toList
  | 'ﬄ' => "FFL".toList
  | 'ﬅ' => "ST".toList
  | 'ﬆ' => "ST".toList
  | other => [other.toUpper]

/--
A text in capitals, as far as its capitals are ASCII: the form in which keywords are compared.
-/
def keyword (text : Text) : Text :=
  text.flatMap keywordChar

end Text

end SignOnGate
