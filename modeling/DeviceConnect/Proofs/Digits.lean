import DeviceConnect.Text.Hex
import Mathlib.Data.Nat.Digits.Defs
import Mathlib.Tactic.Ring

/-! Hexadecimal digits among the bytes of a text. Reading goes by characters; since the last byte of a
character beyond ASCII is no digit, it refuses what has a byte that is none, and reads the number of
the bytes otherwise. -/
namespace DeviceConnect

def Text.bytes (cs : List Char) : Bytes := cs.flatMap String.utf8EncodeChar

@[simp] theorem Text.bytes_cons (c : Char) (rest : List Char) :
    bytes (c :: rest) = String.utf8EncodeChar c ++ bytes rest := rfl

namespace Hex

def digits : List Char := "0123456789abcdef".toList

/-- The byte of a digit, in either case. -/
def IsDigit (b : UInt8) : Prop := (Char.ofNat b.toNat).toLower ∈ digits

instance (b : UInt8) : Decidable (IsDigit b) := inferInstanceAs (Decidable (_ ∈ _))

def digit (b : UInt8) : Nat := digits.idxOf (Char.ofNat b.toNat).toLower

/-- The number that a row of digits denotes in base sixteen. -/
def number (bs : Bytes) : Nat := Nat.ofDigits 16 (bs.map digit).reverse

theorem digit_lt {b : UInt8} (valid : IsDigit b) : digit b < 16 := List.idxOf_lt_length_of_mem valid

theorem number_cons (b : UInt8) (rest : Bytes) :
    number (b :: rest) = 16 ^ rest.length * digit b + number rest := by
  simp only [number, List.map_cons, List.reverse_cons, Nat.ofDigits_append, Nat.ofDigits_singleton,
    List.length_reverse, List.length_map]
  exact Nat.add_comm _ _

theorem number_lt {bs : Bytes} (valid : ∀ b ∈ bs, IsDigit b) : number bs < 16 ^ bs.length := by
  have small : ∀ d ∈ (bs.map digit).reverse, d < 16 := by
    intro d member
    obtain ⟨b, row, rfl⟩ := List.mem_map.mp (List.mem_reverse.mp member)
    exact digit_lt (valid b row)
  have bound := Nat.ofDigits_lt_base_pow_length (by decide : 1 < 16) small
  rwa [List.length_reverse, List.length_map] at bound

theorem digitValue?_ascii {n : Nat} (ascii : n < 128) :
    digitValue? (Char.ofNat n) =
      if IsDigit (UInt8.ofNat n) then some (digit (UInt8.ofNat n)) else none := by
  have all : ∀ n < 128, digitValue? (Char.ofNat n) =
      if IsDigit (UInt8.ofNat n) then some (digit (UInt8.ofNat n)) else none := by decide +kernel
  exact all n ascii

theorem not_isDigit_of_ge {b : UInt8} (high : 128 ≤ b.toNat) : ¬IsDigit b := by
  have all : ∀ n < 256, 128 ≤ n → ¬IsDigit (UInt8.ofNat n) := by decide +kernel
  have other := all b.toNat b.toNat_lt high
  rwa [UInt8.ofNat_toNat] at other

theorem digitValue?_of_not_ascii {c : Char} (high : 128 ≤ c.toNat) : digitValue? c = none := by
  have above (d : Char) (ascii : d.toNat < 128) : ¬c ≤ d := by
    intro le
    have bound : c.toNat ≤ d.toNat := UInt32.le_iff_toNat_le.mp (Char.le_def.mp le)
    omega
  unfold digitValue?
  rw [if_neg fun both => above '9' (by decide) both.2,
    if_neg fun both => above 'f' (by decide) both.2,
    if_neg fun both => above 'F' (by decide) both.2]

theorem exists_not_isDigit {c : Char} (high : 128 ≤ c.toNat) :
    ∃ b ∈ String.utf8EncodeChar c, ¬IsDigit b := by
  have last : UInt8.ofNat (c.val.toNat % 64 + 128) ∈ String.utf8EncodeChar c := by
    have wide : ¬c.val.toNat ≤ 127 := Nat.not_le_of_lt high
    simp only [String.utf8EncodeChar, if_neg wide]
    split
    · simp
    · split
      · simp
      · simp
  refine ⟨_, last, not_isDigit_of_ge ?_⟩
  rw [UInt8.toNat_ofNat']
  omega

theorem digitValue?_cases (c : Char) :
    (∃ b, String.utf8EncodeChar c = [b] ∧ IsDigit b ∧ digitValue? c = some (digit b)) ∨
      (∃ b ∈ String.utf8EncodeChar c, ¬IsDigit b) ∧ digitValue? c = none := by
  by_cases ascii : c.toNat < 128
  · have encoded : String.utf8EncodeChar c = [UInt8.ofNat c.toNat] := by
      have small : c.val.toNat ≤ 127 := Nat.le_of_lt_succ ascii
      simp only [String.utf8EncodeChar, if_pos small]
      rfl
    have value := digitValue?_ascii ascii
    rw [Char.ofNat_toNat] at value
    rw [encoded, value]
    by_cases valid : IsDigit (UInt8.ofNat c.toNat)
    · exact .inl ⟨_, rfl, valid, if_pos valid⟩
    · exact .inr ⟨⟨_, List.mem_singleton.mpr rfl, valid⟩, if_neg valid⟩
  · have high := Nat.le_of_not_lt ascii
    exact .inr ⟨exists_not_isDigit high, digitValue?_of_not_ascii high⟩

/-- A row of characters is read as the number of its bytes, or one of its bytes is no digit. -/
theorem go_cases (cs : List Char) (high : Nat) :
    ((∀ b ∈ Text.bytes cs, IsDigit b) ∧ (Text.bytes cs).length = cs.length ∧
      value?.go high cs = some (16 ^ cs.length * high + number (Text.bytes cs))) ∨
      (∃ b ∈ Text.bytes cs, ¬IsDigit b) ∧ value?.go high cs = none := by
  induction cs generalizing high with
  | nil =>
      have empty : number (Text.bytes []) = 0 := rfl
      refine .inl ⟨nofun, rfl, ?_⟩
      rw [value?.go, empty, List.length_nil, Nat.pow_zero, Nat.one_mul, Nat.add_zero]
  | cons c rest ih =>
      rw [value?.go, Text.bytes_cons]
      rcases digitValue?_cases c with ⟨b, encoded, valid, value⟩ | ⟨⟨b, row, other⟩, value⟩
      · rw [encoded, value]
        rcases ih (16 * high + digit b) with ⟨all, length, read⟩ | ⟨⟨b', row, other⟩, refused⟩
        · refine .inl ⟨List.forall_mem_cons.mpr ⟨valid, all⟩, congrArg Nat.succ length, ?_⟩
          dsimp only
          rw [read, List.singleton_append, number_cons, length, List.length_cons]
          congr 1
          ring
        · exact .inr ⟨⟨b', List.mem_cons_of_mem b row, other⟩, refused⟩
      · rw [value]
        exact .inr ⟨⟨b, List.mem_append_left _ row, other⟩, rfl⟩

end Hex
end DeviceConnect
