import SignOnGate.Text.Percent

/-!
# Query strings

A query is a row of fields between ampersands; a field is a name, and behind its first equals sign a
value. Empty fields are skipped. Reading a name or a value turns plus signs into spaces and undoes
the percent encoding; `without` works on the raw text instead, so that everything it keeps stays as
it was written.
-/

namespace SignOnGate

namespace Query

open Text

/-- The fields of a query as they are written, without the empty ones. -/
def fields (query : Text) : List Text :=
  (pieces '&' query).filter (!·.isEmpty)

/-- The text that a name or a value stands for. -/
def decodePart (part : Text) : Text :=
  Percent.decode (part.map fun char => if char = '+' then ' ' else char)

/-- The name and the value of a field; a field without an equals sign has an empty value. -/
def decodeField (field : Text) : Text × Text :=
  (decodePart (before '=' field), decodePart (after '=' field))

/-- The names and values of a query, in order and with repeats. -/
def parse (query : Text) : List (Text × Text) :=
  (fields query).map decodeField

/-- A query without the fields of a name, which is compared as it is written. -/
def without (name query : Text) : Text :=
  joined ['&'] ((fields query).filter (before '=' · ≠ name))

@[simp]
theorem parse_nil : parse [] = [] := rfl

@[simp]
theorem without_nil (name : Text) : without name [] = [] := rfl

end Query

end SignOnGate
