/-!
# Decoding UTF-8

Bytes that are no UTF-8 are decoded all the same: each sequence that cannot be completed gives one
replacement character, and the byte that ends it is read anew.
-/

namespace CommitStyle.Text.Utf8

/-- A character that has been begun: how many bytes it still needs, between which bounds the next one
has to be, and the bits read so far. -/
structure Pending where
  missing : Nat
  low : Nat
  high : Nat
  bits : Nat

def replacement : Char := '\uFFFD'

/-- What a byte begins: a character by itself, a longer one, or nothing. -/
def begin (byte : Nat) : List Char × Option Pending :=
  if byte < 0x80 then ([Char.ofNat byte], none)
  else if byte < 0xC2 then ([replacement], none)
  else if byte < 0xE0 then ([], some ⟨1, 0x80, 0xBF, byte - 0xC0⟩)
  else if byte < 0xF0 then
    ([], some ⟨2, if byte = 0xE0 then 0xA0 else 0x80, if byte = 0xED then 0x9F else 0xBF,
      byte - 0xE0⟩)
  else if byte < 0xF5 then
    ([], some ⟨3, if byte = 0xF0 then 0x90 else 0x80, if byte = 0xF4 then 0x8F else 0xBF,
      byte - 0xF0⟩)
  else ([replacement], none)

def proceed (pending : Pending) (byte : Nat) : List Char × Option Pending :=
  if pending.low ≤ byte && byte ≤ pending.high then
    let bits := pending.bits * 64 + (byte - 0x80)
    if pending.missing = 1 then ([Char.ofNat bits], none)
    else ([], some ⟨pending.missing - 1, 0x80, 0xBF, bits⟩)
  else
    let (chars, next) := begin byte
    (replacement :: chars, next)

def decodeFrom : Option Pending → List UInt8 → List Char
  | none, [] => []
  | some _, [] => [replacement]
  | none, byte :: rest =>
    let (chars, next) := begin byte.toNat
    chars ++ decodeFrom next rest
  | some pending, byte :: rest =>
    let (chars, next) := proceed pending byte.toNat
    chars ++ decodeFrom next rest

/-- The text of bytes, whether they are UTF-8 or not. -/
def decode (bytes : List UInt8) : String := String.ofList (decodeFrom none bytes)

end CommitStyle.Text.Utf8
