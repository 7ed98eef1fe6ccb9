import DeviceConnect.Json.Parser
import DeviceConnect.Json.Printer
import DeviceConnect.Proofs.Text

/-! Integers and strings as they are written, in front of any text that does not continue them, are
read back. -/
namespace DeviceConnect.Json

/-! ### Integers -/

/-- A text that continues no number. -/
def Ends (rest : List Char) : Prop :=
  ∀ c ∈ rest.head?, c.isDigit = false ∧ c ≠ '.' ∧ c ≠ 'e' ∧ c ≠ 'E'

theorem digitValue_digitChar {d : Nat} (small : d < 10) :
    (Nat.digitChar d).isDigit = true ∧ digitValue (Nat.digitChar d) = d := by
  have all : ∀ d < 10, (Nat.digitChar d).isDigit = true ∧ digitValue (Nat.digitChar d) = d := by
    decide
  exact all d small

theorem significand_toDigits {n : Nat} (small : n ≤ maxSignificand) (rest : List Char) :
    ∃ count, significand 0 0 (Nat.toDigits 10 n ++ rest) = significand n count rest := by
  induction n using Nat.strongRecOn generalizing rest with
  | ind n ih =>
      by_cases single : n < 10
      · obtain ⟨digit, same⟩ := digitValue_digitChar single
        refine ⟨1, ?_⟩
        rw [Nat.toDigits_of_lt_base single, List.singleton_append, significand, digit, same]
        simp [small]
      · have many : 10 ≤ n := Nat.not_lt.mp single
        obtain ⟨digit, same⟩ := digitValue_digitChar (Nat.mod_lt n (by decide))
        have whole : 10 * (n / 10) + n % 10 = n := Nat.div_add_mod n 10
        obtain ⟨count, gathered⟩ :=
          ih (n / 10) (by omega) (by omega) (Nat.digitChar (n % 10) :: rest)
        refine ⟨count + 1, ?_⟩
        rw [Nat.toDigits_of_base_le (by decide) many, List.append_assoc, List.singleton_append,
          gathered, significand, digit, same, whole]
        simp [small]

theorem significand_of_ends {rest : List Char} (ends : Ends rest) (n count : Nat) :
    significand n count rest = (n, count, rest) := by
  cases rest with
  | nil => rfl
  | cons c more =>
      have plain := (ends c rfl).1
      simp [significand, plain]

theorem toDigits_head {n : Nat} (positive : 0 < n) :
    ∃ c more, Nat.toDigits 10 n = c :: more ∧ c.isDigit = true ∧ c ≠ '0' := by
  induction n using Nat.strongRecOn with
  | ind n ih =>
      by_cases single : n < 10
      · have nonzero : ∀ d < 10, 0 < d → Nat.digitChar d ≠ '0' := by decide
        exact ⟨_, [], Nat.toDigits_of_lt_base single, (digitValue_digitChar single).1,
          nonzero n single positive⟩
      · have many : 10 ≤ n := Nat.not_lt.mp single
        obtain ⟨c, more, head, digit, nonzero⟩ := ih (n / 10) (by omega) (by omega)
        refine ⟨c, more ++ [Nat.digitChar (n % 10)], ?_, digit, nonzero⟩
        rw [Nat.toDigits_of_base_le (by decide) many, head, List.cons_append]

theorem number_toDigits {n : Nat} (small : n ≤ maxSignificand) {rest : List Char}
    (ends : Ends rest) (negative : Bool) :
    number negative (Nat.toDigits 10 n ++ rest) = afterInteger negative n rest := by
  by_cases zero : n = 0
  · subst zero
    rw [Nat.toDigits_zero, List.singleton_append]
    cases rest with
    | nil => rfl
    | cons c more =>
        have plain : ¬ c.isDigit = true := by simp [(ends c rfl).1]
        exact if_neg plain
  · obtain ⟨c, more, head, digit, nonzero⟩ := toDigits_head (Nat.pos_of_ne_zero zero)
    obtain ⟨count, gathered⟩ := significand_toDigits small rest
    rw [significand_of_ends ends, head, List.cons_append] at gathered
    have stops : rest.takeWhile Char.isDigit = [] := by
      cases rest with
      | nil => rfl
      | cons c more => simp [List.takeWhile, (ends c rfl).1]
    rw [head, List.cons_append, number]
    · simp only [digit, if_true, gathered, stops]
    · exact nonzero

theorem afterInteger_of_ends {rest : List Char} (ends : Ends rest) (negative : Bool) (n : Nat) :
    afterInteger negative n rest =
      if !negative then .ok (int n, rest)
      else if 0 < n ∧ n ≤ Nat.pow 2 63 then .ok (int (-n), rest)
      else .ok (ofFloat true (UInt64.ofNat n).toFloat, rest) := by
  unfold afterInteger
  split
  · exact absurd rfl (ends '.' rfl).2.1
  · exact absurd rfl (ends 'e' rfl).2.2.1
  · exact absurd rfl (ends 'E' rfl).2.2.2
  · rfl

/-! ### Strings -/

theorem escaped_control {c : Char} (control : c.toNat < 0x20) (tail : List Char) :
    escaped ('u' :: '0' :: '0' :: Hex.byte (UInt8.ofNat c.toNat) ++ tail) = .ok (c, 5) := by
  have digits : ∀ n < 0x20, Hex.value? ('0' :: '0' :: Hex.byte (UInt8.ofNat n)) = some n := by
    decide
  have four : fourDigits ('0' :: '0' :: Hex.byte (UInt8.ofNat c.toNat) ++ tail) = .ok c.toNat := by
    have long : 4 ≤ ('0' :: '0' :: Hex.byte (UInt8.ofNat c.toNat) ++ tail).length := by
      simp [Hex.byte]
    have taken : ('0' :: '0' :: Hex.byte (UInt8.ofNat c.toNat) ++ tail).take 4 =
        '0' :: '0' :: Hex.byte (UInt8.ofNat c.toNat) := rfl
    rw [fourDigits, if_pos long, taken, digits _ control]
  have low : ¬ (0xDC00 ≤ c.toNat ∧ c.toNat ≤ 0xDFFF) := by omega
  have high : ¬ (0xD800 ≤ c.toNat ∧ c.toNat ≤ 0xDBFF) := by omega
  have found : numbered ('0' :: '0' :: Hex.byte (UInt8.ofNat c.toNat) ++ tail) = .ok (c, 4) := by
    simp only [numbered, four, bind, Except.bind, if_neg low, if_neg high, pure, Except.pure,
      Char.ofNat_toNat]
  simp only [List.cons_append] at found ⊢
  simp only [escaped, found, bind, Except.bind, pure, Except.pure]

theorem stringBody_writeChar (c : Char) (tail : List Char) :
    stringBody (writeChar c ++ tail) = (stringBody tail).map fun (cs, rest) => (c :: cs, rest) := by
  have escape (code : List Char) {count : Nat} (read : escaped (code ++ tail) = .ok (c, count))
      (whole : code.length = count) : stringBody ('\\' :: code ++ tail) =
        (stringBody tail).map fun (cs, rest) => (c :: cs, rest) := by
    rw [List.cons_append, stringBody, if_neg (by decide), if_pos rfl, read]
    simp only [← whole, List.drop_left]
  unfold writeChar
  split
  · next same =>
      subst same
      exact escape ['"'] rfl rfl
  split
  · next same =>
      subst same
      exact escape ['\\'] rfl rfl
  split
  · next same =>
      subst same
      exact escape ['b'] rfl rfl
  split
  · next same =>
      subst same
      exact escape ['f'] rfl rfl
  split
  · next same =>
      subst same
      exact escape ['n'] rfl rfl
  split
  · next same =>
      subst same
      exact escape ['r'] rfl rfl
  split
  · next same =>
      subst same
      exact escape ['t'] rfl rfl
  split
  · next control => exact escape _ (escaped_control control tail) rfl
  · next noQuote noSlash _ _ _ _ _ plain =>
      rw [List.singleton_append, stringBody, if_neg noQuote, if_neg noSlash, if_neg plain]

theorem stringBody_writeChars (cs rest : List Char) :
    stringBody (cs.flatMap writeChar ++ '"' :: rest) = .ok (cs, rest) := by
  induction cs with
  | nil =>
      rw [List.flatMap_nil, List.nil_append, stringBody]
      exact if_pos rfl
  | cons c more ih =>
      rw [List.flatMap_cons, List.append_assoc, stringBody_writeChar, ih]
      rfl

end DeviceConnect.Json
