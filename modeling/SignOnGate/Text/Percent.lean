import SignOnGate.Text.Utf8

/-!
# Percent encoding

Everything but ASCII letters, ASCII digits and the marks `_ . - ~` is written as the percent escapes
of its UTF-8 bytes, in capital digits. Reading turns the escapes back into bytes and the bytes into
text; a percent sign without two digits behind it stands for itself, and a character outside ASCII
ends the run of bytes in front of it.
-/

namespace SignOnGate

namespace Percent

/-- A character that is written as it stands. -/
def isUnreserved (char : Char) : Bool :=
  char.isAlphanum || char == '_' || char == '.' || char == '-' || char == '~'

/-- A capital digit of base sixteen. -/
def capitalHexDigit (value : Nat) : Char :=
  (Nat.digitChar value).toUpper

/-- The escape of a byte. -/
def encodeByte (byte : UInt8) : Text :=
  ['%', capitalHexDigit (byte.toNat / 16), capitalHexDigit (byte.toNat % 16)]

/-- A character as it stands in an encoded text. -/
def encodeChar (char : Char) : Text :=
  if isUnreserved char then [char] else (Utf8.encodeChar char).flatMap encodeByte

/-- The encoded form of a text. -/
def encode (text : Text) : Text :=
  text.flatMap encodeChar

/-- A character that stands for itself: a byte if it is ASCII. -/
def plainPiece (char : Char) : Utf8.Piece :=
  if Text.isAscii char then .byte (UInt8.ofNat char.toNat) else .char char

/-- The bytes and characters that an encoded text stands for. -/
def unescape : Text → List Utf8.Piece
  | [] => []
  | [char] => [plainPiece char]
  | [first, second] => [plainPiece first, plainPiece second]
  | first :: second :: third :: rest =>
    if first = '%' then
      match Text.hexValue? second, Text.hexValue? third with
      | some high, some low => .byte (UInt8.ofNat (high * 16 + low)) :: unescape rest
      | _, _ => plainPiece first :: unescape (second :: third :: rest)
    else plainPiece first :: unescape (second :: third :: rest)

/-- The text that an encoded text stands for. -/
def decode (text : Text) : Text :=
  Utf8.decode (unescape text)

end Percent

end SignOnGate
