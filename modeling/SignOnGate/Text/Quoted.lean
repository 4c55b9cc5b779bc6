import SignOnGate.Text.Basic
import SignOnGate.Text.Ranges
import SignOnGate.Text.PrintableTable

/-!
# Quoted text in messages

Messages show a text between single quotes, or between double quotes when it holds a single quote
and no double one. The quote in use, the backslash and every character without a visible form are
written as escapes.
-/

namespace SignOnGate

namespace Text

/-- Whether a character has a visible form; the space has one. -/
def isPrintable (char : Char) : Bool :=
  !inRanges unprintableRanges char.toNat

/-- A character as it stands between the given quotes. -/
def quotedChar (quote char : Char) : Text :=
  if char = quote ∨ char = '\\' then ['\\', char]
  else if char = '\n' then ['\\', 'n']
  else if char = '\r' then ['\\', 'r']
  else if char = '\t' then ['\\', 't']
  else if isPrintable char then [char]
  else if char.toNat < 0x100 then '\\' :: 'x' :: ofHex 2 char.toNat
  else if char.toNat < 0x10000 then '\\' :: 'u' :: ofHex 4 char.toNat
  else '\\' :: 'U' :: ofHex 8 char.toNat

/-- The quote that a text is shown with. -/
def quoteFor (text : Text) : Char :=
  if '\'' ∈ text ∧ '"' ∉ text then '"' else '\''

/-- A text as messages show it. -/
def quoted (text : Text) : Text :=
  let quote := quoteFor text
  quote :: text.flatMap (quotedChar quote) ++ [quote]

end Text

end SignOnGate
