import DeviceConnect.Wire.Varint
import Mathlib.Algebra.Ring.Nat

/-! Integers survive the wire. Within a width every integer is read back in front of any other
bytes, and takes no more bytes than the width allows. -/
namespace DeviceConnect.Wire.Varint

theorem encode_of_lt {n : Nat} (small : n < 128) : encode n = [UInt8.ofNat n] := by
  rw [encode, if_pos small]

theorem encode_of_le {n : Nat} (large : 128 ≤ n) :
    encode n = UInt8.ofNat (128 + n % 128) :: encode (n / 128) := by
  rw [encode, if_neg (Nat.not_lt.mpr large)]

theorem toNat_ofNat {n : Nat} (small : n < 256) : (UInt8.ofNat n).toNat = n := by
  rw [UInt8.toNat_ofNat', Nat.mod_eq_of_lt small]

theorem decodeWithin_encode {last : Nat} (narrow : last < 128) (left n : Nat)
    (fits : n < (last + 1) * 128 ^ left) (rest : Bytes) :
    decodeWithin last (left + 1) (encode n ++ rest) = .ok (n, rest) := by
  induction left generalizing n with
  | zero =>
      have small : n < 128 := by omega
      have low := toNat_ofNat (show n < 256 by omega)
      rw [encode_of_lt small, List.singleton_append, decodeWithin, low, if_pos small, if_neg]
      omega
  | succ left ih =>
      by_cases small : n < 128
      · have low := toNat_ofNat (show n < 256 by omega)
        rw [encode_of_lt small, List.singleton_append, decodeWithin, low, if_pos small, if_neg]
        omega
      · have low := toNat_ofNat (show 128 + n % 128 < 256 by omega)
        have high : n / 128 < (last + 1) * 128 ^ left := by
          rw [Nat.div_lt_iff_lt_mul (by decide), Nat.mul_assoc, ← Nat.pow_succ]
          exact fits
        rw [encode_of_le (Nat.not_lt.mp small), List.cons_append, decodeWithin, low,
          if_neg (by omega), ih _ high]
        have whole : 128 + n % 128 - 128 + 128 * (n / 128) = n := by omega
        simp only [whole]

/-- The last byte takes the one to seven bits that the groups before it leave of the width. -/
theorem exists_room {bits : Nat} (wide : 0 < bits) :
    ∃ left, maxBytes bits = left + 1 ∧ maxLast bits < 128 ∧
      (maxLast bits + 1) * 128 ^ left = 2 ^ bits := by
  obtain ⟨left, bytes⟩ : ∃ left, maxBytes bits = left + 1 :=
    Nat.exists_eq_add_one.mpr (by unfold maxBytes; omega)
  have split : bits - 7 * left + 7 * left = bits := by
    unfold maxBytes at bytes
    omega
  have narrow : 2 ^ (bits - 7 * left) ≤ 2 ^ 7 := by
    refine Nat.pow_le_pow_right (by decide) ?_
    unfold maxBytes at bytes
    omega
  have positive := Nat.two_pow_pos (bits - 7 * left)
  have last : maxLast bits + 1 = 2 ^ (bits - 7 * left) := by
    rw [maxLast, bytes, Nat.add_sub_cancel]
    exact Nat.sub_add_cancel positive
  refine ⟨left, bytes, by omega, ?_⟩
  rw [last, show 128 = 2 ^ 7 from rfl, ← Nat.pow_mul, ← Nat.pow_add, split]

theorem decode_encode {bits n : Nat} (fits : n < 2 ^ bits) (wide : 0 < bits) (rest : Bytes) :
    decode bits (encode n ++ rest) = .ok (n, rest) := by
  obtain ⟨left, bytes, narrow, room⟩ := exists_room wide
  rw [decode, bytes]
  exact decodeWithin_encode narrow left n (room ▸ fits) rest

theorem length_encode_le (left n : Nat) (fits : n < 128 ^ (left + 1)) :
    (encode n).length ≤ left + 1 := by
  induction left generalizing n with
  | zero => exact Nat.le_of_eq (by rw [encode_of_lt (by simpa using fits), List.length_singleton])
  | succ left ih =>
      by_cases small : n < 128
      · rw [encode_of_lt small, List.length_singleton]
        omega
      · have high : n / 128 < 128 ^ (left + 1) := by
          rw [Nat.div_lt_iff_lt_mul (by decide), ← Nat.pow_succ]
          exact fits
        rw [encode_of_le (Nat.not_lt.mp small), List.length_cons]
        exact Nat.succ_le_succ (ih _ high)

end DeviceConnect.Wire.Varint
