import SignOnGate.Text.Basic

/-!
# Latin-1

The encoding of the first 256 characters as one byte each.
-/

namespace SignOnGate

namespace Latin

/-- The text that bytes stand for. -/
def decode (bytes : List UInt8) : Text :=
  bytes.map fun byte => Char.ofNat byte.toNat

/-- Whether a text has a form in bytes. -/
def encodable (text : Text) : Bool :=
  text.all (·.toNat < 256)

/-- The bytes that stand for a text; a character without a byte loses its upper bits. -/
def encode (text : Text) : List UInt8 :=
  text.map fun char => UInt8.ofNat char.toNat

end Latin

end SignOnGate
