import SignOnGate.OrderedMap
import SignOnGate.Pattern.Reader

/-!
# The notation of patterns

Reading a whole pattern: escapes, sets, repetitions, groups, flags, alternatives. Nested parts are
read by recursion on a bound that the length of the text always satisfies.
-/

namespace SignOnGate

namespace Pattern

open Text

namespace Reading

/-! ## Escapes -/

/-- The code point of an escape that stands for a control character or for the backslash. -/
def controlEscape? (char : Char) : Option Nat :=
  match char with
  | 'a' => some 0x07
  | 'b' => some 0x08
  | 'f' => some 0x0C
  | 'n' => some 0x0A
  | 'r' => some 0x0D
  | 't' => some 0x09
  | 'v' => some 0x0B
  | '\\' => some 0x5C
  | _ => none

/-- The class that an escape stands for. -/
def classEscape? (flags : Flags) (char : Char) : Option SetItem :=
  match char with
  | 'd' => some (.named .digit false flags.ascii)
  | 'D' => some (.named .digit true flags.ascii)
  | 's' => some (.named .space false flags.ascii)
  | 'S' => some (.named .space true flags.ascii)
  | 'w' => some (.named .word false flags.ascii)
  | 'W' => some (.named .word true flags.ascii)
  | _ => none

/-- The anchor that an escape stands for. -/
def anchorEscape? (flags : Flags) (char : Char) : Option Anchor :=
  match char with
  | 'A' => some .textStart
  | 'Z' => some .textEnd
  | 'b' => some (.boundary false flags.ascii)
  | 'B' => some (.boundary true flags.ascii)
  | _ => none

/-- The code point of an escape with a fixed number of hexadecimal digits. -/
def hexEscape (char : Char) (count : Nat) : Reading Nat := do
  let digits ← takeWhile count isHexDigit
  let escape := '\\' :: char :: digits
  if digits.length < count then failBack (.incompleteEscape escape) escape.length
  let code := digitsValue 16 digits
  if 0x80000000 ≤ code then throw .characterTooLarge
  if 0x10FFFF < code then failBack (.badEscape escape) escape.length
  return code

/-- An escape with the name of a character. No names are known. -/
def namedEscape {α : Type} : Reading α := do
  if !(← accept '\x7b') then fail (.missing .openBrace)
  let name ← takeName '\x7d' .characterName .endOfCharacterName
  failBack (.unknownCharacterName name) (name.length + 4)

/-- The code point of an escape that is not special: any character but an ASCII letter. -/
def plainEscape (char : Char) : Reading Nat := do
  if char.isAlpha then failBack (.badEscape ['\\', char]) 2
  return char.toNat

/-- The code point of an octal escape. -/
def octalEscape (digits : Text) : Reading Nat := do
  let code := digitsValue 8 digits
  if 0o377 < code then failBack (.octalTooLarge ('\\' :: digits)) (digits.length + 1)
  return code

/-- The element of a set that an escape stands for. -/
def setEscape (flags : Flags) (char : Char) : Reading SetItem := do
  if let some code := controlEscape? char then return .single code
  if let some item := classEscape? flags char then return item
  if char = 'x' then return .single (← hexEscape char 2)
  if char = 'u' then return .single (← hexEscape char 4)
  if char = 'U' then return .single (← hexEscape char 8)
  if char = 'N' then namedEscape
  if isOctalDigit char then
    let digits ← takeWhile 2 isOctalDigit
    return .single (← octalEscape (char :: digits))
  if char.isDigit then failBack (.badEscape ['\\', char]) 2
  return .single (← plainEscape char)

/-- A reference to a group, or an octal escape of three digits. -/
def numberEscape (flags : Flags) (first : Char) : Reading Node := do
  let second ← takeWhile 1 Char.isDigit
  let third ←
    if isOctalDigit first && !second.isEmpty && second.all isOctalDigit then
      takeWhile 1 isOctalDigit
    else pure []
  if third.isEmpty then
    let digits := first :: second
    let index := digitsValue 10 digits
    if (← nextGroup) ≤ index then failBack (.noSuchGroup index) digits.length
    if !(← isClosed index) then failBack .openGroup (digits.length + 1)
    checkLookBehind index
    return .backref index flags.caseMode
  else
    return .char (.literal false (← octalEscape (first :: second ++ third)) flags.caseMode)

/-- The part that an escape stands for. -/
def escape (flags : Flags) (char : Char) : Reading Node := do
  let literal (code : Nat) : Node := .char (.literal false code flags.caseMode)
  if let some anchor := anchorEscape? flags char then return .anchor anchor
  if let some item := classEscape? flags char then
    return .char (.set false [item] flags.caseMode)
  if let some code := controlEscape? char then return literal code
  if char = 'x' then return literal (← hexEscape char 2)
  if char = 'u' then return literal (← hexEscape char 4)
  if char = 'U' then return literal (← hexEscape char 8)
  if char = 'N' then namedEscape
  if char = '0' then
    let digits ← takeWhile 2 isOctalDigit
    return literal (digitsValue 8 digits)
  if char.isDigit then numberEscape flags char
  else return literal (← plainEscape char)

/-! ## Sets -/

/-- The element of a set that a token stands for. -/
def setItem (flags : Flags) : Token → Reading SetItem
  | .escape char => setEscape flags char
  | .plain char => return .single char.toNat

/-- The range between two elements, as their tokens write it. -/
def setRange (low high : Token) (first second : SetItem) : Reading SetItem := do
  let refuse : Reading SetItem :=
    failBack (.badRange low.text high.text) (low.text.length + 1 + high.text.length)
  match first, second with
  | .single first, .single second => if second < first then refuse else return .range first second
  | _, _ => refuse

/-- The elements of a set up to its closing bracket, behind those read so far. -/
def setItems (flags : Flags) (start : Nat) : Nat → List SetItem → Reading (List SetItem)
  | 0, items => return items
  | bound + 1, items => do
    let some token ← take | failAt .unterminatedSet start
    if token = .plain ']' && !items.isEmpty then return items
    let first ← setItem flags token
    if ← accept '-' then
      let some last ← take | failAt .unterminatedSet start
      if last = .plain ']' then return items ++ [first, .single '-'.toNat]
      let second ← setItem flags last
      setItems flags start bound (items ++ [← setRange token last first second])
    else
      setItems flags start bound (items ++ [first])

/-- A list with later repeats left out. -/
def withoutRepeats (items : List SetItem) : List SetItem :=
  (OrderedMap.ofPairs (items.map (·, ()))).keys

/-- A set, its opening bracket having been read. -/
def charSet (flags : Flags) : Reading Node := do
  let start := (← position) - 1
  let negated ← accept '^'
  let items := withoutRepeats (← setItems flags start ((← get).rest.length + 1) [])
  match items with
  | [.single code] => return .char (.literal negated code flags.caseMode)
  | items => return .char (.set negated items flags.caseMode)

/-! ## Repetitions -/

/-- The number that a count writes; counts from `countLimit` on are refused. -/
def count (digits : Text) : Reading Nat := do
  if digitLimit < digits.length then throw (.numberTooLong digits.length)
  let number := digitsValue 10 digits
  if 0xFFFFFFFF ≤ number then throw .repeatTooLarge
  return number

/--
The bounds that stand in braces, the opening one having been read; none if they are no bounds.
-/
def bounds : Reading (Option (Nat × Option Nat)) := do
  let here ← get
  if (← peek) = some (.plain '\x7d') then return none
  let low ← takeAll Char.isDigit
  let high ← if ← accept ',' then takeAll Char.isDigit else pure low
  if ← accept '\x7d' then
    let least ← if low.isEmpty then pure 0 else count low
    let most ← if high.isEmpty then pure none else some <$> count high
    if let some most := most then
      if most < least then failAt .leastAboveMost here.position
    return some (least, most)
  else
    set here
    return none

/-- The bounds that a quantifier stands for; none if it is an ordinary character. -/
def quantifier (char : Char) : Reading (Option (Nat × Option Nat)) :=
  match char with
  | '?' => return some (0, some 1)
  | '*' => return some (0, none)
  | '+' => return some (1, none)
  | _ => bounds

/-- Reads the mark behind a quantifier. -/
def greed : Reading Greed := do
  if ← accept '?' then return .lazy
  if ← accept '+' then return .possessive
  return .greedy

/-- What a quantifier can stand behind. -/
inductive Item where
  /-- A part. -/
  | part (node : Node)
  /-- A group that is not captured and has no flags; it stands for the parts in it. -/
  | bracket (nodes : List Node)

/-- The parts that an item stands for. -/
def Item.nodes : Item → List Node
  | part node => [node]
  | bracket nodes => nodes

/-- The parts of some items, which stand in reverse order. -/
def nodesOf (items : List Item) : List Node :=
  items.reverse.flatMap Item.nodes

/-- Repeats the last of the items read so far, which stand in reverse order. -/
def repeatLast (start : Nat) (least : Nat) (most : Option Nat) : List Item → Reading (List Item)
  | [] => failAt .nothingToRepeat start
  | last :: earlier => do
    match last with
    | .part (.anchor _) => failAt .nothingToRepeat start
    | .part (.repeated _ _ _ _) => failAt .multipleRepeat start
    | _ => return .part (.repeated (← greed) least most (.ofList last.nodes)) :: earlier

/-! ## Flags -/

/-- Whether a character is a flag. -/
def isFlag (char : Char) : Bool :=
  ['i', 'L', 'm', 's', 'x', 'a', 't', 'u'].contains char

/-- Whether a token is a letter, so that it could have been meant as a flag. -/
def isLetterToken : Token → Bool
  | .plain char => inRanges alphanumericRanges char.toNat && !inRanges numericRanges char.toNat
  | .escape _ => false

/--
Refuses a token among flags: a letter is an unknown flag, anything else is not what must follow.
-/
def refuseFlag {α : Type} (token : Token) (expected : Missing) : Reading α :=
  failBack (if isLetterToken token then .flags .unknown else .missing expected) token.text.length

/-- The flags that are turned on, and the character behind them. -/
def flagsOn : Nat → Flags → Char → Reading (Flags × Char)
  | 0, flags, char => return (flags, char)
  | bound + 1, flags, char => do
    if char = 'L' then fail (.flags .locale)
    let flags := flags.add char
    if flags.ascii && flags.unicode && (char = 'a' || char = 'u') then fail (.flags .clash)
    let some token ← take | fail (.missing .flagOrEnd)
    match token with
    | .plain next =>
      if next = ')' || next = '-' || next = ':' then return (flags, next)
      else if isFlag next then flagsOn bound flags next
      else refuseFlag token .flagOrEnd
    | .escape _ => refuseFlag token .flagOrEnd

/-- The flags that are turned off, up to the colon behind them. -/
def flagsOff : Nat → Flags → Char → Reading Flags
  | 0, flags, _ => return flags
  | bound + 1, flags, char => do
    if char = 'a' || char = 'u' || char = 'L' then fail (.flags .alphabetOff)
    let flags := flags.add char
    let some token ← take | fail (.missing .colon)
    match token with
    | .plain next =>
      if next = ':' then return flags
      else if isFlag next then flagsOff bound flags next
      else refuseFlag token .colon
    | .escape _ => refuseFlag token .colon

/-- What the flags of a group say: flags of the whole pattern, or flags on and off inside it. -/
inductive FlagGroup where
  | globals (flags : Flags)
  | inside (added removed : Flags)

/-- The flags of a group, the first of them or the minus sign having been read. -/
def flagGroup (first : Char) : Reading FlagGroup := do
  let bound := (← get).rest.length + 1
  let (added, behind) ← if first = '-' then pure ({}, '-') else flagsOn bound {} first
  if behind = ')' then return .globals added
  if added.template then failBack (.flags .globalOn) 1
  let removed ←
    if behind = '-' then do
      let some token ← take | fail (.missing .flag)
      match token with
      | .plain char => if isFlag char then flagsOff bound {} char else refuseFlag token .flag
      | .escape _ => refuseFlag token .flag
    else pure {}
  if removed.template then failBack (.flags .globalOff) 1
  if added.without removed ≠ added then failBack (.flags .onAndOff) 1
  return .inside added removed

/-! ## Names and numbers of groups -/

/-- Whether a text is an identifier. -/
def isIdentifier : Text → Bool
  | [] => false
  | head :: rest =>
    inRanges identifierStartRanges head.toNat &&
      rest.all fun char => inRanges identifierContinueRanges char.toNat

/-- Refuses a name that is no identifier; its closing mark has been read. -/
def checkName (name : Text) : Reading Unit := do
  if !isIdentifier name then failBack (.badGroupName name) (name.length + 1)

/-- The number of a named group; the name's closing mark has been read. -/
def groupNamed (name : Text) : Reading Nat := do
  match (← get).names.lookup name with
  | some index => return index
  | none => failBack (.unknownGroupName name) (name.length + 1)

/-- No group has this number or a higher one. -/
def groupLimit : Nat := 1073741823

/-- The number of the group that a condition asks for; its closing mark has been read. -/
def conditionGroup (name : Text) : Reading Nat := do
  if isIdentifier name then groupNamed name
  else
    match readInteger name with
    | .ok (.ofNat index) =>
      let back := name.length + 1
      if index = 0 then failBack .badGroupNumber back
      if groupLimit ≤ index then failBack (.noSuchGroup index) back
      modify fun progress =>
        if progress.conditions.any (·.1 = index) then progress
        else { progress with
          conditions := progress.conditions ++ [(index, progress.position - back)] }
      return index
    | _ => failBack (.badGroupName name) (name.length + 1)

/-! ## Parts, alternatives and groups -/

/-- What stands at the front of a group, behind its opening bracket. -/
inductive GroupHead where
  /-- A group that is captured, with a name or without. -/
  | capture (name : Option Text)
  /-- A group that is not captured. -/
  | bracket
  /-- A group that is not captured, with its own flags. -/
  | scoped (added removed : Flags)
  | atomic
  | ahead (negated : Bool)
  | behind (negated : Bool)
  | condition (index : Nat)
  /-- A reference to a named group: no body follows. -/
  | reference (index : Nat)
  /-- A comment: no body follows. -/
  | comment
  /-- Flags of the whole pattern: no body follows. -/
  | globals (flags : Flags)

/-- The head of a group behind `(?P`. -/
def namedHead : Reading GroupHead := do
  if ← accept '<' then
    let name ← takeName '>' .groupName (.endOfGroupName '>')
    checkName name
    return .capture (some name)
  if ← accept '=' then
    let name ← takeName ')' .groupName (.endOfGroupName ')')
    checkName name
    let index ← groupNamed name
    if !(← isClosed index) then failBack .openGroup (name.length + 1)
    checkLookBehind index
    return .reference index
  let some token ← take | fail .unexpectedEnd
  failBack (.unknownExtension ("?P".toList ++ token.text)) (token.text.length + 2)

/-- The head of a group behind `(?<`. -/
def behindHead : Reading GroupHead := do
  let some token ← take | fail .unexpectedEnd
  match token with
  | .plain '=' => return .behind false
  | .plain '!' => return .behind true
  | token => failBack (.unknownExtension ("?<".toList ++ token.text)) (token.text.length + 2)

/-- The head of a group, its opening bracket having been read. -/
def groupHead (start : Nat) : Reading GroupHead := do
  if !(← accept '?') then return .capture none
  let some token ← take | fail .unexpectedEnd
  match token with
  | .plain 'P' => namedHead
  | .plain ':' => return .bracket
  | .plain '#' =>
    if ← skipUntil ')' then return .comment else failAt (.missing .endOfComment) start
  | .plain '=' => return .ahead false
  | .plain '!' => return .ahead true
  | .plain '<' => behindHead
  | .plain '(' =>
    let name ← takeName ')' .groupName (.endOfGroupName ')')
    let index ← conditionGroup name
    checkLookBehind index
    return .condition index
  | .plain '>' => return .atomic
  | .plain char =>
    if isFlag char || char = '-' then
      match ← flagGroup char with
      | .globals flags => return .globals flags
      | .inside added removed => return .scoped added removed
    else failBack (.unknownExtension ['?', char]) 2
  | .escape char => failBack (.unknownExtension ['?', '\\', char]) 3

/-- Reads the bracket that closes a group. -/
def closeBracket (start : Nat) : Reading Unit := do
  if !(← accept ')') then failAt (.missing .endOfGroup) start

/-- Whether a character is skipped in a pattern with comments. -/
def isLayout (char : Char) : Bool :=
  [' ', '\t', '\n', '\r', '\x0b', '\x0c'].contains char

/-- The part that a character stands for which is no bracket and no quantifier. -/
def simplePart (flags : Flags) (char : Char) : Node :=
  match char with
  | '.' => .char (.any flags.dotAll)
  | '^' => .anchor (.start flags.multiLine)
  | '$' => .anchor (.finish flags.multiLine)
  | char => .char (.literal false char.toNat flags.caseMode)

/-- Whether a character is a quantifier or begins one. -/
def isQuantifier (char : Char) : Bool :=
  ['*', '+', '?', '\x7b'].contains char

/--
How deeply the parts of a pattern may be nested. A group counts twice, a condition once. The number
is that of a reader with nothing else under way; otherwise the limit is reached a little earlier.
-/
def depthLimit : Nat := 985

/-- Refuses to go deeper than the limit. -/
def checkDepth (depth : Nat) : Reading Unit := do
  if depthLimit < depth then throw .tooDeep

/-! ## Alternatives -/

/-- The parts that all branches begin with, and the branches without them. -/
def commonFront : List Node → List (List Node) → List Node × List (List Node)
  | [], others => ([], [] :: others)
  | head :: rest, others =>
    if others.all fun other => other.head?.any head.isSame then
      let (front, branches) := commonFront rest (others.map List.tail)
      (head :: front, branches)
    else ([], (head :: rest) :: others)

/-- The elements of the set that some branches amount to, if each of them is a part of a set. -/
def branchItems? (branches : List (List Node)) : Option (List SetItem) :=
  let items? := branches.mapM fun branch =>
    match branch with
    | [node] => node.setItems?
    | _ => none
  items?.map fun items => withoutRepeats items.flatten

/--
The parts that some branches amount to. What all branches begin with is put in front of them, and
branches of a single character become a set.
-/
def ofBranches (mode : CaseMode) : List (List Node) → List Node
  | [] => []
  | [branch] => branch
  | branch :: others =>
    let (front, branches) := commonFront branch others
    match branchItems? branches with
    | some items => front ++ [.char (.set false items mode)]
    | none => front ++ [.ofAlternatives (branches.map .ofList)]

mutual

/--
The alternatives up to a closing bracket or the end, behind those read so far, which stand in
reverse order. Outside of all groups, `outermost`, the flags of the whole pattern are taken up anew
for each of them.
-/
def alternatives (bound depth : Nat) (flags : Flags) (outermost first : Bool)
    (earlier : List (List Node)) : Reading (List Node) :=
  match bound with
  | 0 => return []
  | bound + 1 => do
    let branches := (← parts bound depth flags (outermost && first) []) :: earlier
    let globals := (← get).globals
    let flags := if outermost then globals else flags
    if ← accept '|' then alternatives bound depth flags outermost false branches
    else return ofBranches flags.caseMode branches.reverse

/--
The parts of one alternative, behind those read so far, which stand in reverse order. Flags of the
whole pattern may come first if `leading`.
-/
def parts (bound depth : Nat) (flags : Flags) (leading : Bool) (earlier : List Item) :
    Reading (List Node) :=
  match bound with
  | 0 => return []
  | bound + 1 => do
    let some token ← peek | return nodesOf earlier
    if token = .plain '|' || token = .plain ')' then return nodesOf earlier
    skip token.text.length
    let goOn (node : Node) : Reading (List Node) :=
      parts bound depth flags leading (.part node :: earlier)
    match token with
    | .escape char => goOn (← escape flags char)
    | .plain char =>
      if flags.verbose && isLayout char then parts bound depth flags leading earlier
      else if flags.verbose && char = '#' then do
        let _ ← skipUntil '\n'
        parts bound depth flags leading earlier
      else if char = '[' then goOn (← charSet flags)
      else if isQuantifier char then do
        let start := (← position) - 1
        match ← quantifier char with
        | some (least, most) =>
          parts bound depth flags leading (← repeatLast start least most earlier)
        | none => goOn (simplePart flags char)
      else if char = '(' then do
        let start := (← position) - 1
        match ← groupHead start with
        | .comment => parts bound depth flags leading earlier
        | .globals added =>
          modify fun progress => { progress with globals := progress.globals.join added }
          if !leading || !earlier.isEmpty then failAt (.flags .notFirst) start
          parts bound depth (← get).globals leading earlier
        | .reference index => goOn (.backref index flags.caseMode)
        | head =>
          parts bound depth flags leading ((← group bound depth flags start head) :: earlier)
      else goOn (simplePart flags char)

/-- The group behind a head, up to its closing bracket. -/
def group (bound depth : Nat) (flags : Flags) (start : Nat) (head : GroupHead) : Reading Item :=
  match bound with
  | 0 => return .bracket []
  | bound + 1 => do
    let body (flags : Flags) : Reading (List Node) := do
      checkDepth (depth + 2)
      alternatives bound (depth + 2) flags false true []
    let branch : Reading Node := do
      checkDepth (depth + 1)
      .ofList <$> parts bound (depth + 1) flags false []
    match head with
    | .capture name =>
      let index ← openGroup name
      let node := .ofList (← body flags)
      closeBracket start
      closeGroup index node
      return .part (.group (some index) node)
    | .bracket =>
      let nodes ← body flags
      closeBracket start
      return .bracket nodes
    | .scoped added removed =>
      let nodes ← body (flags.inside added removed)
      closeBracket start
      return .part (.group none (.ofList nodes))
    | .atomic =>
      let nodes ← body flags
      closeBracket start
      return .part (.atomic (.ofList nodes))
    | .ahead negated =>
      let nodes ← body flags
      closeBracket start
      return .part (.ahead negated (.ofList nodes))
    | .behind negated =>
      let outer := (← get).lookBehindStart
      let inner ← nextGroup
      modify fun progress => { progress with lookBehindStart := some (outer.getD inner) }
      let node := .ofList (← body flags)
      modify fun progress => { progress with lookBehindStart := outer }
      closeBracket start
      let progress ← get
      return .part (.behind negated (node.width (groupWidth progress.groups)) node)
    | .condition index =>
      let present ← branch
      let absent ←
        if ← accept '|' then do
          let absent ← branch
          if (← peek) = some (.plain '|') then fail .thirdBranch
          pure absent
        else pure .empty
      closeBracket start
      return .part (.conditional index present absent)
    | _ => return .bracket []

end

/-- A whole pattern. -/
def whole : Reading Node := do
  checkEnd
  let bound := 4 * (← get).rest.length + 8
  let nodes ← alternatives bound 0 {} true true []
  let progress ← get
  if progress.globals.ascii && progress.globals.unicode then throw .alphabetClash
  if !progress.rest.isEmpty then fail .unbalanced
  match progress.conditions.find? (progress.groups.length < ·.1) with
  | some (index, position) => failAt (.noSuchGroup index) position
  | none => return .ofList nodes

end Reading

end Pattern

end SignOnGate
