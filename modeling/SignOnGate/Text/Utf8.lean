import SignOnGate.Text.Basic

/-!
# UTF-8

Encoding of characters to bytes, and two readers. The lenient reader runs over a mixture of bytes
and characters that were never encoded; it writes U+FFFD for each longest start of a character that
cannot be completed. The strict reader refuses instead.
-/

namespace SignOnGate

namespace Utf8

/-- The bytes of a character. -/
def encodeChar (char : Char) : List UInt8 :=
  let code := char.toNat
  if code < 0x80 then [UInt8.ofNat code]
  else if code < 0x800 then [UInt8.ofNat (0xC0 + code / 0x40), UInt8.ofNat (0x80 + code % 0x40)]
  else if code < 0x10000 then
    [UInt8.ofNat (0xE0 + code / 0x1000), UInt8.ofNat (0x80 + code / 0x40 % 0x40),
      UInt8.ofNat (0x80 + code % 0x40)]
  else
    [UInt8.ofNat (0xF0 + code / 0x40000), UInt8.ofNat (0x80 + code / 0x1000 % 0x40),
      UInt8.ofNat (0x80 + code / 0x40 % 0x40), UInt8.ofNat (0x80 + code % 0x40)]

/-- The bytes of a text. -/
def encode (text : Text) : List UInt8 :=
  text.flatMap encodeChar

/-- A byte to be decoded, or a character that needs no decoding. -/
inductive Piece where
  | byte (value : UInt8)
  | char (value : Char)
  deriving Repr, DecidableEq

/--
Where a reader stands: between characters, or inside one of which `missing + 1` bytes are still to
come, the next one between `low` and `high`.
-/
inductive State where
  | between
  | inside (collected missing low high : Nat)
  deriving Repr, DecidableEq

/-- The mark written for bytes that form no character. -/
def replacement : Char := '\uFFFD'

/-- The reader's move on the first byte of a character; none if no character starts with it. -/
def first (byte : Nat) : Option (Char ⊕ State) :=
  if byte < 0x80 then some (.inl (Char.ofNat byte))
  else if byte < 0xC2 then none
  else if byte < 0xE0 then some (.inr (.inside (byte - 0xC0) 0 0x80 0xBF))
  else if byte = 0xE0 then some (.inr (.inside 0 1 0xA0 0xBF))
  else if byte = 0xED then some (.inr (.inside 0xD 1 0x80 0x9F))
  else if byte < 0xF0 then some (.inr (.inside (byte - 0xE0) 1 0x80 0xBF))
  else if byte = 0xF0 then some (.inr (.inside 0 2 0x90 0xBF))
  else if byte < 0xF4 then some (.inr (.inside (byte - 0xF0) 2 0x80 0xBF))
  else if byte = 0xF4 then some (.inr (.inside 4 2 0x80 0x8F))
  else none

/-- The reader's move on a byte between characters: what it writes, and where it stands next. -/
def begin (byte : UInt8) : Text × State :=
  match first byte.toNat with
  | some (.inl char) => ([char], .between)
  | some (.inr state) => ([], state)
  | none => ([replacement], .between)

/-- The reader's move on one piece: what it writes, and where it stands next. -/
def step : State → Piece → Text × State
  | .between, .char char => ([char], .between)
  | .between, .byte byte => begin byte
  | .inside _ _ _ _, .char char => ([replacement, char], .between)
  | .inside collected missing low high, .byte byte =>
    if low ≤ byte.toNat ∧ byte.toNat ≤ high then
      let collected := collected * 0x40 + byte.toNat % 0x40
      match missing with
      | 0 => ([Char.ofNat collected], .between)
      | missing + 1 => ([], .inside collected missing 0x80 0xBF)
    else
      let next := begin byte
      (replacement :: next.1, next.2)

/-- The text of a run of pieces, read from the given state. -/
def decodeFrom : State → List Piece → Text
  | .between, [] => []
  | .inside _ _ _ _, [] => [replacement]
  | state, piece :: rest =>
    let next := step state piece
    next.1 ++ decodeFrom next.2 rest

/-- The text of a run of pieces. -/
def decode (pieces : List Piece) : Text :=
  decodeFrom .between pieces

/-- The text of a run of bytes, read from the given state; none if they are no text. -/
def decodeStrictFrom : State → List UInt8 → Option Text
  | .between, [] => some []
  | .inside _ _ _ _, [] => none
  | .between, byte :: rest =>
    match first byte.toNat with
    | some (.inl char) => (decodeStrictFrom .between rest).map (char :: ·)
    | some (.inr state) => decodeStrictFrom state rest
    | none => none
  | .inside collected missing low high, byte :: rest =>
    if low ≤ byte.toNat ∧ byte.toNat ≤ high then
      let collected := collected * 0x40 + byte.toNat % 0x40
      match missing with
      | 0 => (decodeStrictFrom .between rest).map (Char.ofNat collected :: ·)
      | missing + 1 => decodeStrictFrom (.inside collected missing 0x80 0xBF) rest
    else none

/-- The text of a run of bytes; none if they are no text. -/
def decodeStrict (bytes : List UInt8) : Option Text :=
  decodeStrictFrom .between bytes

end Utf8

end SignOnGate
