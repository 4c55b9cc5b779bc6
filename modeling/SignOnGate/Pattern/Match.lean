import SignOnGate.Pattern.Marks
import SignOnGate.Pattern.Node

/-!
# Matching

A part of a pattern is matched at a place of the text, and what has to follow is handed to it. The
first way of matching behind which the rest succeeds is taken; so the order in which a part tries
its ways is the order in which the whole is searched.

Every attempt, a failed one too, leaves a trail: the place where it was last taken up, and the marks
of the groups. The trail of a failure counts in two cases. A condition can ask for a group that is
still open, and so see marks that an earlier attempt has set. And a possessive repetition goes on
from the place where its last attempt, which failed, was given up: the `re` engine of release 3.11.2
is followed, and from release 3.11.5 on the place is put back.

Repetitions of a single character are run through at once; all others take one step after the other,
for which the length of the text sets a bound: a repetition beyond the required number is tried only
if the one in front of it has moved.
-/

namespace SignOnGate

namespace Pattern

/-- What an attempt leaves behind: the place where it was last taken up, and the marks. -/
structure Trail where
  place : Nat
  marks : Marks := []
  deriving Repr, DecidableEq

/-- Whether an attempt succeeded, and its trail. -/
structure Outcome where
  success : Bool
  trail : Trail
  deriving Repr, DecidableEq

/-- What has to follow, and the test that it begins with, if it begins with a test. -/
structure Rest where
  front? : Option CharTest
  run : Nat → Trail → Outcome

/-- A way to match at a place, with what has to follow. -/
abbrev Matcher := Nat → Trail → Rest → Outcome

/-- Nothing has to follow. -/
def Rest.nothing : Rest where
  front? := none
  run place trail := ⟨true, { trail with place }⟩

section

variable (text : Array Nat)

/-! ## Conditions on a place -/

/-- Whether the character behind a place passes a test. -/
def passes (test : CharTest) (place : Nat) : Bool :=
  text[place]?.any test.holds

/-- Whether a word character stands in front of a place. -/
def wordBefore (ascii : Bool) (place : Nat) : Bool :=
  0 < place && text[place - 1]?.any (isWordCode ascii)

/-- Whether a word character stands behind a place. -/
def wordBehind (ascii : Bool) (place : Nat) : Bool :=
  text[place]?.any (isWordCode ascii)

/-- Whether a line end stands behind a place. -/
def lineEndBehind (place : Nat) : Bool :=
  text[place]? == some 0x0A

/--
Whether a place satisfies an anchor. There is no boundary, nor a lack of one, in the empty text.
-/
def Anchor.holds (anchor : Anchor) (place : Nat) : Bool :=
  match anchor with
  | textStart => place == 0
  | textEnd => place == text.size
  | start lines => place == 0 || (lines && lineEndBehind text (place - 1))
  | finish lines =>
    place == text.size || ((lines || place + 1 == text.size) && lineEndBehind text place)
  | boundary negated ascii =>
    !text.isEmpty && (wordBefore text ascii place != wordBehind text ascii place) != negated

/-- Whether the captured text stands behind a place as well. -/
def repeatsCaptured (mode : CaseMode) (start finish place : Nat) : Bool :=
  (List.range (finish - start)).all fun offset =>
    match text[start + offset]?, text[place + offset]? with
    | some first, some second => mode.fold first == mode.fold second
    | _, _ => false

/-! ## Repetitions of a single character -/

/-- The number of characters behind a place, at most the given one, that pass a test. -/
def countPassing (test : CharTest) : Nat → Nat → Nat
  | 0, _ => 0
  | bound + 1, place =>
    if passes text test place then countPassing test bound (place + 1) + 1 else 0

/-- The number of repetitions of a character at a place, at most `most`. -/
def countRun (test : CharTest) (most : Option Nat) (place : Nat) : Nat :=
  let left := text.size - place
  countPassing text test ((most.map (min left)).getD left) place

/-- The trail after some repetitions of a character: a folded test is taken up for each of them. -/
def trailAfterRun (test : CharTest) (place count : Nat) (trail : Trail) : Trail :=
  { trail with place := if test.isFolded then place + count else place }

/-- Whether the rest can begin at a place, as far as a comparison with its first character tells. -/
def mayFollow (rest : Rest) (place : Nat) : Bool :=
  match rest.front?.bind CharTest.code? with
  | some code => text[place]? == some code
  | none => true

/-- Tries what has to follow at a place, and clears up behind a failure. -/
def tryRest (repeating : Bool) (rest : Rest) (place : Nat) (trail : Trail) : Outcome :=
  let outcome := rest.run place { trail with place }
  if outcome.success then outcome
  else ⟨false, { outcome.trail with
    marks := Marks.afterFailure repeating trail.marks outcome.trail.marks }⟩

/-- Tries what has to follow behind `count` characters more than required, then behind fewer. -/
def backOff (repeating : Bool) (rest : Rest) (start : Nat) : Nat → Trail → Outcome
  | 0, trail =>
    if mayFollow text rest start then tryRest repeating rest start trail else ⟨false, trail⟩
  | count + 1, trail =>
    if mayFollow text rest (start + (count + 1)) then
      let outcome := tryRest repeating rest (start + (count + 1)) trail
      if outcome.success then outcome else backOff repeating rest start count outcome.trail
    else backOff repeating rest start count trail

/-- Tries what has to follow at a place, then behind one more character, and so on. -/
def moveOn (test : CharTest) (repeating : Bool) (rest : Rest) : Nat → Nat → Trail → Outcome
  | 0, _, trail => ⟨false, trail⟩
  | bound + 1, place, trail =>
    let outcome := tryRest repeating rest place trail
    if outcome.success then outcome
    else
      let back := { outcome.trail with place }
      if passes text test place then
        moveOn test repeating rest bound (place + 1) (trailAfterRun test place 1 back)
      else ⟨false, back⟩

/-- Repetitions of a single character. -/
def matchRun (greed : Greed) (least : Nat) (most : Option Nat) (test : CharTest)
    (repeating : Bool) : Matcher := fun place trail rest =>
  if text.size - place < least then ⟨false, trail⟩
  else
    let count := countRun text test (if greed = .lazy then some least else most) place
    let trail := trailAfterRun test place count trail
    if count < least then ⟨false, trail⟩
    else
      match greed with
      | .greedy => backOff text repeating rest (place + least) (count - least) trail
      | .lazy =>
        let bound := (most.map (· - least)).getD text.size + 1
        moveOn text test repeating rest bound (place + least) trail
      | .possessive => rest.run (place + count) trail

/-! ## Other repetitions -/

/-- Whether one more repetition may be tried: the bound allows it, and the last one has moved. -/
def mayRepeat (most : Option Nat) (count : Nat) (last : Option Nat) (place : Nat) : Bool :=
  most.all (count < ·) && last != some place

/-- Takes up what has to follow behind the last repetition. -/
def leave (rest : Rest) (place : Nat) (trail : Trail) : Outcome :=
  let outcome := rest.run place { trail with place }
  if outcome.success then outcome else ⟨false, { outcome.trail with place }⟩

/-- Repetitions, as many as possible first; `last` is where the last one beyond `least` began. -/
def greedily (body : Matcher) (rest : Rest) (least : Nat) (most : Option Nat) :
    Nat → Nat → Option Nat → Nat → Trail → Outcome
  | 0, _, _, _, trail => ⟨false, trail⟩
  | bound + 1, count, last, place, trail =>
    let here := { trail with place }
    let again (last : Option Nat) : Outcome :=
      body place here ⟨none, greedily body rest least most bound (count + 1) last⟩
    if count < least then
      let outcome := again last
      if outcome.success then outcome else ⟨false, { outcome.trail with place }⟩
    else if mayRepeat most count last place then
      let outcome := again (some place)
      if outcome.success then outcome else leave rest place here
    else leave rest place here

/-- Repetitions, as few as possible first; `last` is where the last one beyond `least` began. -/
def lazily (repeating : Bool) (body : Matcher) (rest : Rest) (least : Nat) (most : Option Nat) :
    Nat → Nat → Option Nat → Nat → Trail → Outcome
  | 0, _, _, _, trail => ⟨false, trail⟩
  | bound + 1, count, last, place, trail =>
    let again (last : Option Nat) (trail : Trail) : Outcome :=
      let outcome := body place trail
        ⟨none, lazily repeating body rest least most bound (count + 1) last⟩
      if outcome.success then outcome else ⟨false, { outcome.trail with place }⟩
    if count < least then again last { trail with place }
    else
      let outcome := tryRest repeating rest place trail
      if outcome.success then outcome
      else
        let back := { outcome.trail with place }
        if mayRepeat most count last place then again (some place) back else ⟨false, back⟩

/-- A number of required repetitions, each matched for good. -/
def requiredForGood (body : Matcher) : Nat → Trail → Outcome
  | 0, trail => ⟨true, trail⟩
  | count + 1, trail =>
    let outcome := body trail.place trail .nothing
    if outcome.success then requiredForGood body count outcome.trail else outcome

/--
Further repetitions, each matched for good, and the failed attempt that ends them. As in release
3.11.2, the trail keeps the place where that attempt was given up: `A(?<=x)*+` does not accept `A`.
-/
def furtherForGood (body : Matcher) (most : Option Nat) : Nat → Nat → Option Nat → Trail → Trail
  | 0, _, _, trail => trail
  | bound + 1, count, last, trail =>
    if mayRepeat most count last trail.place then
      let outcome := body trail.place trail .nothing
      if outcome.success then
        furtherForGood body most bound (count + 1) (some trail.place) outcome.trail
      else { outcome.trail with marks := trail.marks }
    else trail

/-- Repetitions of a part. -/
def matchRepeated (greed : Greed) (least : Nat) (most : Option Nat) (repeating : Bool)
    (body : Bool → Matcher) : Matcher := fun place trail rest =>
  let bound := text.size + 2
  match greed with
  | .greedy => greedily (body true) rest least most (least + bound) 0 none place trail
  | .lazy => lazily repeating (body true) rest least most (least + bound) 0 none place trail
  | .possessive =>
    let outcome := requiredForGood (body repeating) least { trail with place }
    if outcome.success then
      let trail := furtherForGood (body repeating) most bound least none outcome.trail
      rest.run trail.place trail
    else ⟨false, { outcome.trail with place }⟩

/-! ## Parts of a pattern -/

/--
Matches a part at a place, and then what has to follow; `repeating` tells of a repetition around.
-/
def Node.run : Node → Bool → Matcher
  | empty, _, place, trail, rest => rest.run place trail
  | never, _, _, trail, _ => ⟨false, trail⟩
  | char test, _, place, trail, rest =>
    if passes text test place then rest.run (place + 1) trail else ⟨false, trail⟩
  | anchor condition, _, place, trail, rest =>
    if condition.holds text place then rest.run place trail else ⟨false, trail⟩
  | seq first second, repeating, place, trail, rest =>
    first.run repeating place trail
      ⟨second.front? rest.front?, fun place trail => second.run repeating place trail rest⟩
  | alt first second, repeating, place, trail, rest =>
    if (first.front? none).any fun test => test.isPlain && !passes text test place then
      second.run repeating place trail rest
    else
      let outcome := first.run repeating place { trail with place } { rest with front? := none }
      if outcome.success then outcome
      else
        let marks := Marks.afterFailure repeating trail.marks outcome.trail.marks
        second.run repeating place { outcome.trail with marks } rest
  | group none body, repeating, place, trail, rest => body.run repeating place trail rest
  | group (some index) body, repeating, place, trail, rest =>
    body.run repeating place { trail with marks := trail.marks.openGroup index place }
      ⟨none, fun place trail =>
        rest.run place { trail with marks := trail.marks.closeGroup index place }⟩
  | atomic body, repeating, place, trail, rest =>
    let outcome := body.run repeating place { trail with place } .nothing
    if outcome.success then rest.run outcome.trail.place outcome.trail
    else ⟨false, { outcome.trail with place }⟩
  | repeated greed least most body, repeating, place, trail, rest =>
    match body.single? with
    | some test => matchRun text greed least most test repeating place trail rest
    | none => matchRepeated text greed least most repeating body.run place trail rest
  | ahead negated body, repeating, place, trail, rest =>
    let outcome := body.run repeating place { trail with place } .nothing
    if outcome.success then
      if negated then ⟨false, outcome.trail⟩ else rest.run place outcome.trail
    else if negated then
      let marks := Marks.afterFailure repeating trail.marks outcome.trail.marks
      rest.run place { outcome.trail with marks }
    else ⟨false, outcome.trail⟩
  | behind negated width body, repeating, place, trail, rest =>
    if place < width.least then
      if negated then rest.run place trail else ⟨false, trail⟩
    else
      let start := place - width.least
      let outcome := body.run repeating start { trail with place := start } .nothing
      if outcome.success then
        if negated then ⟨false, outcome.trail⟩ else rest.run place outcome.trail
      else if negated then
        let marks := Marks.afterFailure repeating trail.marks outcome.trail.marks
        rest.run place { outcome.trail with marks }
      else ⟨false, outcome.trail⟩
  | backref index mode, _, place, trail, rest =>
    match trail.marks.captured? index with
    | some (start, finish) =>
      if repeatsCaptured text mode start finish place then
        rest.run (place + (finish - start)) trail
      else ⟨false, trail⟩
    | none => ⟨false, trail⟩
  | conditional index present absent, repeating, place, trail, rest =>
    if (trail.marks.captured? index).isSome then
      let front? := if absent.isEmpty then rest.front? else none
      present.run repeating place trail { rest with front? }
    else absent.run repeating place trail rest

/-- Nothing may follow: the text ends here. -/
def Rest.textEnd : Rest where
  front? := none
  run place trail := if place = text.size then ⟨true, { trail with place }⟩ else ⟨false, trail⟩

end

/-- How a part fares with the whole of a text. -/
def Node.runAll (node : Node) (text : Text) : Outcome :=
  let codes := (text.map Char.toNat).toArray
  node.run codes false 0 { place := 0 } (.textEnd codes)

end Pattern

end SignOnGate
