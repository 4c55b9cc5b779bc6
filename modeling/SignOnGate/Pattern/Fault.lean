import SignOnGate.Pattern.Node
import SignOnGate.Text.Integer
import SignOnGate.Text.Quoted

/-!
# Faults of patterns

Why a text is no pattern. A fault of the notation has a cause and, as a rule, a place. Apart from
these, numbers may be too large, groups may be nested too deeply, and the two alphabets may both be
asked for.
-/

namespace SignOnGate

namespace Pattern

open Text

/-- Something that a pattern lacks. -/
inductive Missing where
  | openBrace
  | groupName
  | characterName
  | endOfGroupName (mark : Char)
  | endOfCharacterName
  | endOfComment
  | endOfGroup
  | flagOrEnd
  | flag
  | colon
  deriving Repr, DecidableEq

/-- The words for what is missing. -/
def Missing.message : Missing → Text
  | openBrace => "missing \x7b".toList
  | groupName => "missing group name".toList
  | characterName => "missing character name".toList
  | endOfGroupName mark => "missing ".toList ++ mark :: ", unterminated name".toList
  | endOfCharacterName => "missing \x7d, unterminated name".toList
  | endOfComment => "missing ), unterminated comment".toList
  | endOfGroup => "missing ), unterminated subpattern".toList
  | flagOrEnd => "missing -, : or )".toList
  | flag => "missing flag".toList
  | colon => "missing :".toList

/-- What is wrong with the flags of a group. -/
inductive FlagFault where
  | locale
  | clash
  | unknown
  | globalOn
  | globalOff
  | alphabetOff
  | onAndOff
  | notFirst
  deriving Repr, DecidableEq

/-- The words for what is wrong with the flags. -/
def FlagFault.message : FlagFault → Text
  | locale => "bad inline flags: cannot use 'L' flag with a str pattern".toList
  | clash => "bad inline flags: flags 'a', 'u' and 'L' are incompatible".toList
  | unknown => "unknown flag".toList
  | globalOn => "bad inline flags: cannot turn on global flag".toList
  | globalOff => "bad inline flags: cannot turn off global flag".toList
  | alphabetOff => "bad inline flags: cannot turn off flags 'a', 'u' and 'L'".toList
  | onAndOff => "bad inline flags: flag turned on and off".toList
  | notFirst => "global flags not at the start of the expression".toList

/-- Why the notation of a pattern is refused. -/
inductive Cause where
  | badEscape (escape : Text)
  | endInEscape
  | incompleteEscape (escape : Text)
  | octalTooLarge (escape : Text)
  | unknownCharacterName (name : Text)
  | missing (part : Missing)
  | flags (fault : FlagFault)
  | unterminatedSet
  | badRange (low high : Text)
  | leastAboveMost
  | nothingToRepeat
  | multipleRepeat
  | unexpectedEnd
  | unknownExtension (start : Text)
  | badGroupName (name : Text)
  | unknownGroupName (name : Text)
  | redefinedGroup (name : Text) (index earlier : Nat)
  | badGroupNumber
  | noSuchGroup (index : Nat)
  | openGroup
  | groupInLookBehind
  | thirdBranch
  | unbalanced
  | lookBehindVaries
  | templateRepeat (greed : Greed)
  deriving Repr, DecidableEq

/-- The word for a repetition under the template flag. -/
def greedWord : Greed → Text
  | .greedy => "MAX_REPEAT".toList
  | .lazy => "MIN_REPEAT".toList
  | .possessive => "POSSESSIVE_REPEAT".toList

/-- The words for a cause. -/
def Cause.message : Cause → Text
  | badEscape escape => "bad escape ".toList ++ escape
  | endInEscape => "bad escape (end of pattern)".toList
  | incompleteEscape escape => "incomplete escape ".toList ++ escape
  | octalTooLarge escape =>
    "octal escape value ".toList ++ escape ++ " outside of range 0-0o377".toList
  | unknownCharacterName name => "undefined character name ".toList ++ quoted name
  | missing part => part.message
  | flags fault => fault.message
  | unterminatedSet => "unterminated character set".toList
  | badRange low high => "bad character range ".toList ++ low ++ '-' :: high
  | leastAboveMost => "min repeat greater than max repeat".toList
  | nothingToRepeat => "nothing to repeat".toList
  | multipleRepeat => "multiple repeat".toList
  | unexpectedEnd => "unexpected end of pattern".toList
  | unknownExtension start => "unknown extension ".toList ++ start
  | badGroupName name => "bad character in group name ".toList ++ quoted name
  | unknownGroupName name => "unknown group name ".toList ++ quoted name
  | redefinedGroup name index earlier =>
    "redefinition of group name ".toList ++ quoted name ++ " as group ".toList ++ ofNat index ++
      "; was group ".toList ++ ofNat earlier
  | badGroupNumber => "bad group number".toList
  | noSuchGroup index => "invalid group reference ".toList ++ ofNat index
  | openGroup => "cannot refer to an open group".toList
  | groupInLookBehind =>
    "cannot refer to group defined in the same lookbehind subpattern".toList
  | thirdBranch => "conditional backref with more than two branches".toList
  | unbalanced => "unbalanced parenthesis".toList
  | lookBehindVaries => "look-behind requires fixed-width pattern".toList
  | templateRepeat greed => "internal: unsupported template operator ".toList ++ greedWord greed

/-- Why a text is no pattern. -/
inductive Fault where
  /-- The notation is refused, at a place unless the pattern as a whole is at fault. -/
  | malformed (cause : Cause) (position : Option Nat)
  /-- A number of repetitions is too large. -/
  | repeatTooLarge
  /-- The number of a character is too large to be told from a negative one. -/
  | characterTooLarge
  /-- A number of repetitions has too many digits to be read. -/
  | numberTooLong (digits : Nat)
  /-- The ASCII and the Unicode alphabet are both asked for. -/
  | alphabetClash
  /-- Groups are nested too deeply. -/
  | tooDeep
  /-- A look-behind goes back too far. -/
  | lookBehindTooFar
  deriving Repr, DecidableEq

/-- The words for a place in a text of several lines. -/
def lineMessage (text : Text) (position : Nat) : Text :=
  let front := text.take position
  let line := front.count '\n' + 1
  let column := (afterLast '\n' front).length + 1
  " (line ".toList ++ ofNat line ++ ", column ".toList ++ ofNat column ++ [')']

/-- The words for a fault of the given text. -/
def Fault.message (text : Text) : Fault → Text
  | malformed cause none => cause.message
  | malformed cause (some position) =>
    cause.message ++ " at position ".toList ++ ofNat position ++
      if '\n' ∈ text then lineMessage text position else []
  | repeatTooLarge => "the repetition number is too large".toList
  | characterTooLarge => "the number of a character is too large".toList
  | numberTooLong digits => digitLimitMessage digits
  | alphabetClash => "ASCII and UNICODE flags are incompatible".toList
  | tooDeep => "groups are nested too deeply".toList
  | lookBehindTooFar => "a look-behind goes back too far".toList

end Pattern

end SignOnGate
