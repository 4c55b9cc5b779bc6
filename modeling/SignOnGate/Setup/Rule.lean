import SignOnGate.Exclusion
import SignOnGate.Setup.Fault

/-!
# Exclusion rules from text

The three kinds of exclusion rules that are configured by a word, in letters of any case, and a
text. Only a rule by pattern can fail.
-/

namespace SignOnGate

namespace Exclusion

/-- The rule by a pattern. -/
def ofPattern (source : Text) : Except SetupFault Exclusion :=
  match Pattern.compile source with
  | .ok compiled => .ok (.pattern compiled)
  | .error (.malformed cause position) => .error (.refused (.badPattern source cause position))
  | .error .repeatTooLarge => .error .tooLarge
  | .error .characterTooLarge => .error .tooLarge
  | .error .tooDeep => .error .nestedTooDeep
  | .error .lookBehindTooFar => .error .lookBehindTooFar
  | .error fault => .error (.badValue (fault.message source))

/-- How the rule of a kind is made from its text. -/
def ofKind? (kind : Text) : Option (Text → Except SetupFault Exclusion) :=
  let word := Text.keyword kind
  if word = "CONTAINS".toList then some fun part => .ok (.contains part)
  else if word = "REGEX".toList then some ofPattern
  else if word = "EXACT".toList then some fun url => .ok (.exact url)
  else none

end Exclusion

end SignOnGate
