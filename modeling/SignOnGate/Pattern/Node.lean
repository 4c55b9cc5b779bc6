import SignOnGate.Pattern.CharTest

/-!
# Patterns

The tree of a pattern, and the least and the greatest number of characters that a part of it can
take. A pattern looks behind only over a part of which both numbers are the same.
-/

namespace SignOnGate

namespace Pattern

/-- A condition on a place between two characters. -/
inductive Anchor where
  | textStart
  | textEnd
  /-- The start of the text or, with `lines`, of a line. -/
  | start (lines : Bool)
  /-- The end of the text or of its last line or, with `lines`, of any line. -/
  | finish (lines : Bool)
  | boundary (negated ascii : Bool)
  deriving Repr, DecidableEq

/-- The order in which the numbers of repetitions are tried. -/
inductive Greed where
  /-- Many first. -/
  | greedy
  /-- Few first. -/
  | lazy
  /-- As many as possible, and no other number. -/
  | possessive
  deriving Repr, DecidableEq

/-- The least and the greatest number of characters that a part of a pattern takes. -/
structure Width where
  least : Nat
  most : Nat
  deriving Repr, DecidableEq

/-- A part of a pattern. -/
inductive Node where
  | empty
  /-- No way to match: the end of a row of alternatives. -/
  | never
  | char (test : CharTest)
  | anchor (anchor : Anchor)
  | seq (first second : Node)
  | alt (first second : Node)
  | group (index : Option Nat) (body : Node)
  | atomic (body : Node)
  | repeated (greed : Greed) (least : Nat) (most : Option Nat) (body : Node)
  | ahead (negated : Bool) (body : Node)
  | behind (negated : Bool) (width : Width) (body : Node)
  | backref (index : Nat) (mode : CaseMode)
  | conditional (index : Nat) (present absent : Node)
  deriving Repr

/-- Numbers of characters are not counted any further than this. -/
def widthLimit : Nat := 0xFFFFFFFF

namespace Width

/-- A width with both numbers cut: the greatest number at the limit, the least one below it. -/
def capped (least most : Nat) : Width :=
  ⟨min least (widthLimit - 1), min most widthLimit⟩

/-- The width of two parts in a row. -/
def add (first second : Width) : Width :=
  capped (first.least + second.least) (first.most + second.most)

/-- The width of one of two parts. -/
def join (first second : Width) : Width :=
  ⟨min first.least second.least, max first.most second.most⟩

/-- The width of a number of repetitions. -/
def times (width : Width) (least : Nat) (most : Option Nat) : Width :=
  match most with
  | some most => capped (width.least * least) (width.most * most)
  | none => capped (width.least * least) (width.most * widthLimit)

end Width

namespace Node

/-- The nodes of a list in a row. -/
def ofList : List Node → Node
  | [] => empty
  | [node] => node
  | node :: rest => seq node (ofList rest)

/-- One of the nodes of a list. -/
def ofAlternatives : List Node → Node
  | [] => never
  | node :: rest => alt node (ofAlternatives rest)

/-- The width of a part, given the widths of the groups. -/
def width (groups : Nat → Width) : Node → Width
  | empty => ⟨0, 0⟩
  | never => ⟨widthLimit - 1, 0⟩
  | char _ => ⟨1, 1⟩
  | anchor _ => ⟨0, 0⟩
  | seq first second => (first.width groups).add (second.width groups)
  | alt first second => (first.width groups).join (second.width groups)
  | group _ body => body.width groups
  | atomic body => body.width groups
  | repeated _ least most body => (body.width groups).times least most
  | ahead _ _ => ⟨0, 0⟩
  | behind _ _ _ => ⟨0, 0⟩
  | backref index _ => groups index
  | conditional _ present absent => (present.width groups).join (absent.width groups)

/-- The test of a single character that a part consists of. -/
def single? : Node → Option CharTest
  | char test => some test
  | group none body => body.single?
  | _ => none

/-- The test that a part begins with, if it is a test of a single character; `behind` follows it. -/
def front? (behind : Option CharTest) : Node → Option CharTest
  | empty => behind
  | char test => some test
  | seq first second => first.front? (second.front? behind)
  | group none body => body.front? behind
  | _ => none

/-- Whether a part is empty. -/
def isEmpty : Node → Bool
  | empty => true
  | _ => false

/-- Whether two parts are the same in a way that shows without looking into groups. -/
def isSame : Node → Node → Bool
  | char left, char right => left == right
  | anchor left, anchor right => left == right
  | backref left _, backref right _ => left == right
  | _, _ => false

/-- The elements of the set that a part stands for, if it is a plain set or a single character. -/
def setItems? : Node → Option (List SetItem)
  | char (.literal false code _) => some [.single code]
  | char (.set false items _) => some items
  | _ => none

end Node

end Pattern

end SignOnGate
