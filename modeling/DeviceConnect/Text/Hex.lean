/-! Hexadecimal digits: reading in either case, writing at a fixed width. -/
namespace DeviceConnect

abbrev Bytes := List UInt8

namespace Hex

def digitValue? (c : Char) : Option Nat :=
  if '0' ≤ c ∧ c ≤ '9' then some (c.toNat - 48)
  else if 'a' ≤ c ∧ c ≤ 'f' then some (c.toNat - 87)
  else if 'A' ≤ c ∧ c ≤ 'F' then some (c.toNat - 55)
  else none

/-- The value of a row of digits; `none` as soon as one of them is no digit. -/
def value? : List Char → Option Nat :=
  go 0
where
  go (high : Nat) : List Char → Option Nat
    | [] => some high
    | c :: rest => match digitValue? c with
      | some d => go (16 * high + d) rest
      | none => none

def lowerDigit (n : Nat) : Char := Char.ofNat (if n < 10 then 48 + n else 87 + n)
def upperDigit (n : Nat) : Char := Char.ofNat (if n < 10 then 48 + n else 55 + n)

/-- The last `width` digits of `n`, in upper case. -/
def upper : Nat → Nat → List Char
  | 0, _ => []
  | width + 1, n => upper width (n / 16) ++ [upperDigit (n % 16)]

def byte (b : UInt8) : List Char := [lowerDigit (b.toNat / 16), lowerDigit (b.toNat % 16)]

def bytes (bs : Bytes) : List Char := bs.flatMap byte

def lower (n : Nat) : List Char :=
  if n < 16 then [lowerDigit n] else lower (n / 16) ++ [lowerDigit (n % 16)]

/-- Reads pairs of digits; an odd count or a foreign character is refused. -/
def bytes? : List Char → Option Bytes
  | [] => some []
  | a :: b :: rest => do
    let high ← digitValue? a
    let low ← digitValue? b
    let tail ← bytes? rest
    some (UInt8.ofNat (16 * high + low) :: tail)
  | [_] => none

end Hex
end DeviceConnect
