import DeviceConnect.Text.Hex

/-! Integers on the wire: groups of seven bits, least first, the high bit set on all but the
last byte. Zero padding is accepted as long as the width allows its bytes. -/
namespace DeviceConnect.Wire

inductive ReadFault where
  | endOfInput
  | badVarint
  | badText
  | badValue
  | badStuffing
  deriving DecidableEq

def ReadFault.message : ReadFault → String
  | endOfInput => "Hit the end of buffer, expected more data"
  | badVarint => "Found a varint that didn't terminate. Is the usize too big for this platform?"
  | badText => "Tried to parse invalid utf-8"
  | badValue => "Serde Deserialization Error"
  | badStuffing => "The original data was not well encoded"

abbrev Reader (α : Type) := Bytes → Except ReadFault (α × Bytes)

namespace Varint

def encode (n : Nat) : Bytes :=
  if n < 128 then [UInt8.ofNat n] else UInt8.ofNat (128 + n % 128) :: encode (n / 128)

def maxBytes (bits : Nat) : Nat := (bits + 6) / 7

/-- The greatest last byte that still fits `bits` bits. -/
def maxLast (bits : Nat) : Nat := Nat.pow 2 (bits - 7 * (maxBytes bits - 1)) - 1

/-- Reads at most `left` bytes; the last allowed one is at most `last`. -/
def decodeWithin (last : Nat) : Nat → Reader Nat
  | 0, _ => .error .badVarint
  | _ + 1, [] => .error .endOfInput
  | left + 1, b :: rest =>
    if b.toNat < 128 then
      if left = 0 ∧ last < b.toNat then .error .badVarint else .ok (b.toNat, rest)
    else match decodeWithin last left rest with
      | .ok (high, rest) => .ok (b.toNat - 128 + 128 * high, rest)
      | .error fault => .error fault

def decode (bits : Nat) : Reader Nat := decodeWithin (maxLast bits) (maxBytes bits)

end Varint
end DeviceConnect.Wire
