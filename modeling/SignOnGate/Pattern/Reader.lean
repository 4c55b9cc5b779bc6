import SignOnGate.Pattern.Fault

/-!
# Reading a pattern

A pattern is read in tokens: a character, or a backslash with the character behind it. A backslash
at the end is refused as soon as it is the next token. What has been established about groups and
flags is carried along.
-/

namespace SignOnGate

namespace Pattern

open Text

/-- A character, or a backslash with the character behind it. -/
inductive Token where
  | plain (char : Char)
  | escape (char : Char)
  deriving Repr, DecidableEq

/-- The text of a token. -/
def Token.text : Token → Text
  | plain char => [char]
  | escape char => ['\\', char]

/-- The flags that are in force at a place of a pattern. -/
structure Flags where
  ignoreCase : Bool := false
  multiLine : Bool := false
  dotAll : Bool := false
  verbose : Bool := false
  ascii : Bool := false
  unicode : Bool := false
  template : Bool := false
  deriving Repr, DecidableEq

namespace Flags

/-- The case mode that the flags ask for. -/
def caseMode (flags : Flags) : CaseMode :=
  if !flags.ignoreCase then .exact else if flags.ascii then .ignoreAscii else .ignore

/-- The flags with one more. -/
def add (flags : Flags) (char : Char) : Flags :=
  match char with
  | 'i' => { flags with ignoreCase := true }
  | 'm' => { flags with multiLine := true }
  | 's' => { flags with dotAll := true }
  | 'x' => { flags with verbose := true }
  | 'a' => { flags with ascii := true }
  | 'u' => { flags with unicode := true }
  | 't' => { flags with template := true }
  | _ => flags

/-- The flags of both. -/
def join (left right : Flags) : Flags where
  ignoreCase := left.ignoreCase || right.ignoreCase
  multiLine := left.multiLine || right.multiLine
  dotAll := left.dotAll || right.dotAll
  verbose := left.verbose || right.verbose
  ascii := left.ascii || right.ascii
  unicode := left.unicode || right.unicode
  template := left.template || right.template

/-- The flags of the first that are not among the second. -/
def without (left right : Flags) : Flags where
  ignoreCase := left.ignoreCase && !right.ignoreCase
  multiLine := left.multiLine && !right.multiLine
  dotAll := left.dotAll && !right.dotAll
  verbose := left.verbose && !right.verbose
  ascii := left.ascii && !right.ascii
  unicode := left.unicode && !right.unicode
  template := left.template && !right.template

/--
The flags inside a group that turns some on and some off; a named alphabet replaces the other.
-/
def inside (flags added removed : Flags) : Flags :=
  let base := if added.ascii || added.unicode then { flags with ascii := false, unicode := false }
    else flags
  (base.join added).without removed

end Flags

/-- What is known in the middle of a pattern. -/
structure Progress where
  /-- The text that is still to be read. -/
  rest : Text
  /-- The number of characters that have been read. -/
  position : Nat := 0
  /-- The flags that hold for the pattern as a whole. -/
  globals : Flags := {}
  /-- The widths of the groups opened so far, the first one at the head; none while it is open. -/
  groups : List (Option Width) := []
  /-- The numbers of the named groups. -/
  names : List (Text × Nat) := []
  /-- Inside a look-behind, the number that the next group had where it began. -/
  lookBehindStart : Option Nat := none
  /-- The groups that conditions ask for, each with the place where it was first asked for. -/
  conditions : List (Nat × Nat) := []
  deriving Repr

/-- A step in the reading of a pattern. -/
abbrev Reading := StateT Progress (Except Fault)

namespace Reading

/-- Fails at a place. -/
def failAt {α : Type} (cause : Cause) (position : Nat) : Reading α :=
  throw (.malformed cause (some position))

/-- Fails a number of characters in front of the next token. -/
def failBack {α : Type} (cause : Cause) (back : Nat) : Reading α := do
  failAt cause ((← get).position - back)

/-- Fails at the next token. -/
def fail {α : Type} (cause : Cause) : Reading α :=
  failBack cause 0

/-- The place of the next token. -/
def position : Reading Nat := do
  return (← get).position

/-- The token at the front of a text. -/
def tokenOf? : Text → Option Token
  | [] => none
  | '\\' :: char :: _ => some (.escape char)
  | char :: _ => some (.plain char)

/-- The next token. -/
def peek : Reading (Option Token) := do
  return tokenOf? (← get).rest

/-- Refuses a backslash that is alone at the end. -/
def checkEnd : Reading Unit := do
  if (← get).rest = ['\\'] then fail .endInEscape

/-- Goes over a number of characters. -/
def skip (count : Nat) : Reading Unit := do
  modify fun progress =>
    { progress with
      rest := progress.rest.drop count
      position := progress.position + (progress.rest.take count).length }
  checkEnd

/-- Reads the next token. -/
def take : Reading (Option Token) := do
  let token ← peek
  match token with
  | some token => skip token.text.length
  | none => pure ()
  return token

/-- Reads the next token if it is the given character, and tells whether it was. -/
def accept (char : Char) : Reading Bool := do
  if (← peek) = some (.plain char) then
    skip 1
    return true
  else
    return false

/-- Reads at most `count` characters of a kind that holds no backslash. -/
def takeWhile (count : Nat) (kind : Char → Bool) : Reading Text := do
  let text := ((← get).rest.take count).takeWhile kind
  skip text.length
  return text

/-- Reads all characters of a kind that holds no backslash. -/
def takeAll (kind : Char → Bool) : Reading Text := do
  takeWhile (← get).rest.length kind

/-- The text in front of the first token that is the mark, and whether there is one. -/
def untilMark (mark : Char) : Text → Text × Bool
  | [] => ([], false)
  | ['\\'] => ([], false)
  | '\\' :: char :: rest =>
    let (text, found) := untilMark mark rest
    ('\\' :: char :: text, found)
  | char :: rest =>
    if char = mark then ([], true)
    else
      let (text, found) := untilMark mark rest
      (char :: text, found)

/-- Reads up to a mark and over it; tells whether there was one. -/
def skipUntil (mark : Char) : Reading Bool := do
  let (text, found) := untilMark mark (← get).rest
  if found then skip (text.length + 1) else skip text.length
  return found

/-- Reads a name that ends with a mark. -/
def takeName (mark : Char) (name unterminated : Missing) : Reading Text := do
  let (text, found) := untilMark mark (← get).rest
  if found then
    skip (text.length + 1)
    if text.isEmpty then failBack (.missing name) 1
    return text
  else
    skip text.length
    if text.isEmpty then fail (.missing name) else failBack (.missing unterminated) text.length

/-! ## Groups -/

/-- The number that the next group will have. -/
def nextGroup : Reading Nat := do
  return (← get).groups.length + 1

/-- Whether a group has been closed. -/
def isClosed (index : Nat) : Reading Bool := do
  return (((← get).groups[index - 1]?).join).isSome

/-- Opens a group and gives its number. -/
def openGroup (name : Option Text) : Reading Nat := do
  let index ← nextGroup
  modify fun progress => { progress with groups := progress.groups ++ [none] }
  match name with
  | none => pure ()
  | some name =>
    match (← get).names.lookup name with
    | some earlier => failBack (.redefinedGroup name index earlier) (name.length + 1)
    | none => modify fun progress => { progress with names := (name, index) :: progress.names }
  return index

/-- The width of a closed group. -/
def groupWidth (groups : List (Option Width)) (index : Nat) : Width :=
  ((groups[index - 1]?).join).getD ⟨0, 0⟩

/-- Closes a group. -/
def closeGroup (index : Nat) (body : Node) : Reading Unit :=
  modify fun progress =>
    { progress with
      groups := progress.groups.set (index - 1) (some (body.width (groupWidth progress.groups))) }

/-- Refuses a reference, inside a look-behind, to a group that is open or part of it. -/
def checkLookBehind (index : Nat) : Reading Unit := do
  match (← get).lookBehindStart with
  | none => pure ()
  | some start =>
    if !(← isClosed index) then fail .openGroup
    if start ≤ index then fail .groupInLookBehind

end Reading

end Pattern

end SignOnGate
