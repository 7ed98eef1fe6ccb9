import DeviceConnect.Text.Hex
import DeviceConnect.Text.Split

/-! Digits, separators and bytes: a number written at a fixed width is read back from its digits, a
text is split where its parts were joined, and only its own bytes are read as a text. -/
namespace DeviceConnect

namespace Hex

theorem digitValue?_upperDigit {n : Nat} (small : n < 16) :
    digitValue? (upperDigit n) = some n := by
  have all : ∀ n < 16, digitValue? (upperDigit n) = some n := by decide
  exact all n small

theorem upperDigit_ne_slash {n : Nat} (small : n < 16) : upperDigit n ≠ '/' := by
  have all : ∀ n < 16, upperDigit n ≠ '/' := by decide
  exact all n small

@[simp] theorem length_upper (width n : Nat) : (upper width n).length = width := by
  induction width generalizing n with
  | zero => rfl
  | succ width ih => rw [upper, List.length_append, ih, List.length_singleton]

theorem slash_not_mem_upper (width n : Nat) : '/' ∉ upper width n := by
  induction width generalizing n with
  | zero => exact List.not_mem_nil
  | succ width ih =>
      rw [upper, List.mem_append, List.mem_singleton]
      rintro (high | last)
      · exact ih (n / 16) high
      · exact upperDigit_ne_slash (Nat.mod_lt n (by decide)) last.symm

theorem go_upper (width n high : Nat) (fits : n < Nat.pow 16 width) (rest : List Char) :
    value?.go high (upper width n ++ rest) = value?.go (Nat.pow 16 width * high + n) rest := by
  induction width generalizing n rest with
  | zero =>
      have zero : n = 0 := Nat.lt_one_iff.mp fits
      simp [zero, upper]
  | succ width ih =>
      have fewer : n / 16 < Nat.pow 16 width := Nat.div_lt_of_lt_mul (by rwa [Nat.mul_comm])
      have shifted : 16 * (Nat.pow 16 width * high + n / 16) + n % 16 =
          Nat.pow 16 (width + 1) * high + n := by
        have split : Nat.pow 16 (width + 1) * high = 16 * (Nat.pow 16 width * high) := by
          rw [Nat.pow_eq, Nat.pow_eq, Nat.pow_succ, Nat.mul_comm _ 16, Nat.mul_assoc]
        omega
      rw [upper, List.append_assoc, ih (n / 16) fewer, List.singleton_append, value?.go,
        digitValue?_upperDigit (Nat.mod_lt n (by decide))]
      simp only [shifted]

theorem value?_upper {width n : Nat} (fits : n < Nat.pow 16 width) :
    value? (upper width n) = some n := by
  have read := go_upper width n 0 fits []
  rw [List.append_nil, Nat.mul_zero, Nat.zero_add] at read
  exact read

end Hex

namespace Text

variable {sep : Char}

theorem split_plain {part : List Char} (plain : sep ∉ part) : split sep part = [part] := by
  induction part with
  | nil => rfl
  | cons c rest ih =>
      have other : c ≠ sep := fun same => plain (same ▸ List.mem_cons_self)
      rw [split, if_neg other, ih fun member => plain (List.mem_cons_of_mem c member)]

theorem split_append {part : List Char} (plain : sep ∉ part) (rest : List Char) :
    split sep (part ++ sep :: rest) = part :: split sep rest := by
  induction part with
  | nil => rw [List.nil_append, split, if_pos rfl]
  | cons c more ih =>
      have other : c ≠ sep := fun same => plain (same ▸ List.mem_cons_self)
      rw [List.cons_append, split, if_neg other,
        ih fun member => plain (List.mem_cons_of_mem c member)]

theorem sep_not_mem_of_mem_split {cs part : List Char} (member : part ∈ split sep cs) :
    sep ∉ part := by
  induction cs generalizing part with
  | nil =>
      rw [split, List.mem_singleton] at member
      exact member ▸ List.not_mem_nil
  | cons c rest ih =>
      rw [split] at member
      split at member
      · rcases List.mem_cons.mp member with rfl | later
        · exact List.not_mem_nil
        · exact ih later
      · next other =>
          split at member
          · next first more parts =>
              rw [parts] at ih
              rcases List.mem_cons.mp member with rfl | later
              · exact List.not_mem_cons_of_ne_of_not_mem (Ne.symm other) (ih List.mem_cons_self)
              · exact ih (List.mem_cons_of_mem first later)
          · rw [List.mem_singleton] at member
            subst member
            exact List.not_mem_cons_of_ne_of_not_mem (Ne.symm other) List.not_mem_nil

def joined (sep : Char) (parts : List (List Char)) : List Char := parts.flatMap (sep :: ·)

def Plain (sep : Char) (parts : List (List Char)) : Prop := ∀ part ∈ parts, sep ∉ part

instance (sep : Char) (parts : List (List Char)) : Decidable (Plain sep parts) :=
  inferInstanceAs (Decidable (∀ part ∈ parts, sep ∉ part))

theorem split_joined {first : List Char} {rest : List (List Char)}
    (plain : Plain sep (first :: rest)) : split sep (first ++ joined sep rest) = first :: rest := by
  induction rest generalizing first with
  | nil =>
      rw [joined, List.flatMap_nil, List.append_nil]
      exact split_plain (plain first List.mem_cons_self)
  | cons next rest ih =>
      have later : Plain sep (next :: rest) := (List.forall_mem_cons.mp plain).2
      have shape : joined sep (next :: rest) = sep :: (next ++ joined sep rest) := rfl
      rw [shape, split_append (plain first List.mem_cons_self), ih later]

theorem split_ne_nil (sep : Char) (cs : List Char) : split sep cs ≠ [] := by
  cases cs with
  | nil => exact List.cons_ne_nil _ _
  | cons c rest =>
      rw [split]
      split
      · exact List.cons_ne_nil _ _
      · split
        · exact List.cons_ne_nil _ _
        · exact List.cons_ne_nil _ _

theorem joined_split (sep : Char) (cs : List Char) : joined sep (split sep cs) = sep :: cs := by
  induction cs with
  | nil => rfl
  | cons c rest ih =>
      rw [split]
      split
      · next same =>
          subst same
          exact congrArg (c :: ·) ih
      · cases parts : split sep rest with
        | nil => exact absurd parts (split_ne_nil sep rest)
        | cons first more =>
            rw [parts] at ih
            exact congrArg (sep :: c :: ·) (List.cons.inj ih).2

theorem plain_split (sep : Char) (cs : List Char) : Plain sep (split sep cs) :=
  fun _ member => sep_not_mem_of_mem_split member

theorem joined_injective {parts parts' : List (List Char)} (plain : Plain sep parts)
    (plain' : Plain sep parts') (same : joined sep parts = joined sep parts') : parts = parts' := by
  cases parts with
  | nil =>
      cases parts' with
      | nil => rfl
      | cons first' rest' => cases same
  | cons first rest =>
      cases parts' with
      | nil => cases same
      | cons first' rest' =>
          have bodies : first ++ joined sep rest = first' ++ joined sep rest' :=
            (List.cons.inj same).2
          rw [← split_joined plain, bodies, split_joined plain']

theorem toByteArray_of_fromUTF8? {bytes : ByteArray} {text : String}
    (read : String.fromUTF8? bytes = some text) : text.toByteArray = bytes := by
  unfold String.fromUTF8? at read
  split at read
  · cases read
    rfl
  · cases read

end Text
end DeviceConnect
