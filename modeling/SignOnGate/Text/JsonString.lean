import SignOnGate.Text.Basic

/-!
# Strings of a JSON document

A text as a JSON string of printable ASCII only. What is not printable ASCII is written as an escape
of its UTF-16 units, so a character above U+FFFF takes two escapes.
-/

namespace SignOnGate

namespace JsonString

/-- The escape of a UTF-16 unit. -/
def escapeUnit (unit : Nat) : Text :=
  '\\' :: 'u' :: Text.ofHex 4 unit

/-- A character as it stands in a string. -/
def encodeChar (char : Char) : Text :=
  let code := char.toNat
  if char = '"' ∨ char = '\\' then ['\\', char]
  else if char = '\n' then ['\\', 'n']
  else if char = '\r' then ['\\', 'r']
  else if char = '\t' then ['\\', 't']
  else if code = 0x08 then ['\\', 'b']
  else if code = 0x0C then ['\\', 'f']
  else if 0x20 ≤ code ∧ code < 0x7F then [char]
  else if code < 0x10000 then escapeUnit code
  else
    escapeUnit (0xD800 + (code - 0x10000) / 0x400) ++ escapeUnit (0xDC00 + (code - 0x10000) % 0x400)

/-- A text as a string, with its quotes. -/
def encode (text : Text) : Text :=
  '"' :: text.flatMap encodeChar ++ ['"']

end JsonString

end SignOnGate
