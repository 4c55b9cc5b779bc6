import SignOnGate.Pattern.Match
import SignOnGate.Pattern.Notation

/-!
# Regular expressions

A pattern is a text together with the tree that it was read into. It accepts the texts that it
matches as a whole.
-/

namespace SignOnGate

/-- A regular expression: its text, the tree it stands for, and the least length of a match. -/
structure Pattern where
  source : Text
  node : Pattern.Node
  shortest : Nat
  deriving Repr

namespace Pattern

/--
A part that no machine can carry out: a look-behind of varying width, or a template repetition.
-/
def Node.offence? (template : Bool) : Node → Option Cause
  | seq first second => (first.offence? template).or (second.offence? template)
  | alt first second => (first.offence? template).or (second.offence? template)
  | group _ body => body.offence? template
  | atomic body => body.offence? template
  | repeated greed _ _ body =>
    if template then some (.templateRepeat greed) else body.offence? template
  | ahead _ body => body.offence? template
  | behind _ width body =>
    if width.least ≠ width.most then some .lookBehindVaries
    else body.offence? template
  | conditional _ present absent => (present.offence? template).or (absent.offence? template)
  | _ => none

/-- The greatest width of a look-behind. -/
def Node.backward : Node → Nat
  | seq first second => max first.backward second.backward
  | alt first second => max first.backward second.backward
  | group _ body => body.backward
  | atomic body => body.backward
  | repeated _ _ _ body => body.backward
  | ahead _ body => body.backward
  | behind _ width body => max width.least body.backward
  | conditional _ present absent => max present.backward absent.backward
  | _ => 0

/-- The pattern that a text stands for. -/
def compile (source : Text) : Except Fault Pattern :=
  match Reading.whole.run { rest := source } with
  | .error fault => .error fault
  | .ok (node, progress) =>
    match node.offence? progress.globals.template with
    | some cause => .error (.malformed cause none)
    | none =>
      if 0x80000000 ≤ node.backward then .error .lookBehindTooFar
      else
        let shortest := (node.width (Reading.groupWidth progress.groups)).least
        .ok { source, node, shortest }

/--
Whether a pattern matches the whole of a text. There is no answer if a group ends up in front of its
own start.
-/
def accepts? (pattern : Pattern) (text : Text) : Option Bool :=
  if text.length < pattern.shortest then some false
  else
    let outcome := pattern.node.runAll text
    if outcome.success && outcome.trail.marks.isCrossed then none else some outcome.success

end Pattern

end SignOnGate
