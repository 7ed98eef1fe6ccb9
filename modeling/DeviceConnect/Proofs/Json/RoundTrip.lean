import DeviceConnect.Proofs.Json.Scalar
import DeviceConnect.Proofs.Json.Shape

/-! A value without doubles that fits is read back from its written form: by induction on how it
fits, each level by the room that is left for it. -/
namespace DeviceConnect.Json

/-! ### First characters -/

theorem skipBlank_cons {c : Char} (visible : isBlank c = false) (cs : List Char) :
    skipBlank (c :: cs) = c :: cs := by
  simp [skipBlank, List.dropWhile, visible]

theorem skipBlank_newLine (level : Nat) (cs : List Char) :
    skipBlank (newLine level ++ cs) = skipBlank cs := by
  have blanks (n : Nat) : skipBlank (List.replicate n ' ' ++ cs) = skipBlank cs := by
    induction n with
    | zero => rfl
    | succ n ih => exact ih
  exact blanks (2 * level)

theorem value_null (room : Nat) (rest : List Char) :
    value room (['n', 'u', 'l', 'l'] ++ rest) = .ok (null, rest) := by
  rw [value.eq_def]
  rfl

theorem value_true (room : Nat) (rest : List Char) :
    value room (['t', 'r', 'u', 'e'] ++ rest) = .ok (bool true, rest) := by
  rw [value.eq_def]
  rfl

theorem value_false (room : Nat) (rest : List Char) :
    value room (['f', 'a', 'l', 's', 'e'] ++ rest) = .ok (bool false, rest) := by
  rw [value.eq_def]
  rfl

theorem value_minus (room : Nat) (cs : List Char) : value room ('-' :: cs) = number true cs := by
  rw [value.eq_def]
  rfl

theorem isBlank_of_isDigit {c : Char} (digit : c.isDigit = true) : isBlank c = false := by
  cases blank : isBlank c with
  | false => rfl
  | true =>
      simp only [isBlank, Bool.or_eq_true, decide_eq_true_eq] at blank
      rcases blank with ((rfl | rfl) | rfl) | rfl <;> cases digit

theorem value_digit {c : Char} (digit : c.isDigit = true) (room : Nat) (cs : List Char) :
    value room (c :: cs) = number false (c :: cs) := by
  rw [value.eq_def, skipBlank_cons (isBlank_of_isDigit digit)]
  dsimp only
  split
  case h_8 => exact if_pos digit
  all_goals cases digit

theorem value_space (room : Nat) (cs : List Char) : value room (' ' :: cs) = value room cs := by
  rw [value.eq_def, value.eq_def room cs]
  rfl

theorem value_quote (room : Nat) (cs : List Char) :
    value room ('"' :: cs) = (string cs).map fun (text, rest) => (str text, rest) := by
  rw [value.eq_def]
  rfl

theorem value_bracket (room : Nat) (cs : List Char) :
    value (room + 1) ('[' :: cs) = (items (value room) cs).map fun (xs, rest) => (arr xs, rest) :=
  rfl

theorem value_brace (room : Nat) (cs : List Char) :
    value (room + 1) ('\x7b' :: cs) =
      (members (value room) cs).map fun (ms, rest) => (obj (Members.ofList ms), rest) :=
  rfl

/-! ### Scalars -/

theorem isDigit_of_toDigits {n : Nat} {c : Char} {more : List Char}
    (head : Nat.toDigits 10 n = c :: more) : c.isDigit = true :=
  Nat.isDigit_of_mem_toDigits (b := 10) (n := n) (by decide) (by decide)
    (head ▸ List.mem_cons_self)

theorem value_toDigits {n : Nat} (small : n ≤ maxSignificand) {rest : List Char}
    (ends : Ends rest) (room : Nat) :
    value room (Nat.toDigits 10 n ++ rest) = .ok (int n, rest) := by
  have read : number false (Nat.toDigits 10 n ++ rest) = .ok (int n, rest) := by
    rw [number_toDigits small ends, afterInteger_of_ends ends]
    rfl
  cases head : Nat.toDigits 10 n with
  | nil => exact absurd head Nat.toDigits_ne_nil
  | cons c more =>
      rw [head] at read
      rw [List.cons_append, value_digit (isDigit_of_toDigits head)]
      exact read

theorem value_intText {n : Int} (low : minInt ≤ n) (high : n ≤ maxInt) {rest : List Char}
    (ends : Ends rest) (room : Nat) : value room (intText n ++ rest) = .ok (int n, rest) := by
  unfold minInt at low
  unfold maxInt at high
  unfold intText
  split
  · next negative =>
      have size : 0 < n.natAbs ∧ n.natAbs ≤ Nat.pow 2 63 := ⟨by omega, by simp; omega⟩
      have small : n.natAbs ≤ maxSignificand := by
        unfold maxSignificand
        simp only [Nat.pow_eq] at *
        omega
      have same : -(n.natAbs : Int) = n := by omega
      rw [List.cons_append, value_minus, number_toDigits small ends, afterInteger_of_ends ends,
        if_neg (by decide), if_pos size, same]
  · next positive =>
      have small : n.natAbs ≤ maxSignificand := by
        unfold maxSignificand
        simp only [Nat.pow_eq] at *
        omega
      have same : (n.natAbs : Int) = n := by omega
      rw [value_toDigits small ends, same]

theorem string_writeString (text : String) (rest : List Char) :
    string (text.toList.flatMap writeChar ++ '"' :: rest) = .ok (text, rest) := by
  rw [string, stringBody_writeChars]
  simp only [Except.map, String.ofList_toList]

theorem value_writeString (room : Nat) (text : String) (rest : List Char) :
    value room (writeString text ++ rest) = .ok (str text, rest) := by
  have regroup : writeString text ++ rest =
      '"' :: (text.toList.flatMap writeChar ++ '"' :: rest) := by
    simp [writeString]
  rw [regroup, value_quote, string_writeString]
  rfl

/-! ### Lists and objects -/

theorem write_head {room : Nat} {json : Json} (fits : Fits room json) (whole : Whole json)
    (level : Nat) : ∃ c more, write level json = c :: more ∧ isBlank c = false ∧ c ≠ ']' := by
  have digits (n : Nat) :
      ∃ c more, Nat.toDigits 10 n = c :: more ∧ isBlank c = false ∧ c ≠ ']' := by
    cases head : Nat.toDigits 10 n with
    | nil => exact absurd head Nat.toDigits_ne_nil
    | cons c more =>
        have digit := isDigit_of_toDigits head
        refine ⟨c, more, rfl, isBlank_of_isDigit digit, ?_⟩
        rintro rfl
        cases digit
  cases json with
  | null => exact ⟨_, _, rfl, by decide, by decide⟩
  | bool b => cases b <;> exact ⟨_, _, rfl, by decide, by decide⟩
  | int n =>
      rw [write, intText]
      split
      · exact ⟨_, _, rfl, by decide, by decide⟩
      · exact digits n.natAbs
  | double bits => cases whole
  | str text => exact ⟨_, _, rfl, by decide, by decide⟩
  | arr items => cases items <;> exact ⟨_, _, rfl, by decide, by decide⟩
  | obj members => cases members <;> exact ⟨_, _, rfl, by decide, by decide⟩

/-- What is read of a value that is written at a level, in front of a text that ends numbers. -/
def Reads (item : List Char → Scan Json) (level : Nat) (json : Json) : Prop :=
  (∃ c more, write level json = c :: more ∧ isBlank c = false ∧ c ≠ ']') ∧
    ∀ rest, Ends rest → item (write level json ++ rest) = .ok (json, rest)

theorem ends_newLine (level : Nat) (cs : List Char) : Ends (newLine level ++ cs) := by
  intro c member
  cases member
  decide

theorem ends_writeItems (level : Nat) (more : List Json) {tail : List Char} (ends : Ends tail) :
    Ends (writeItems level more ++ tail) := by
  cases more with
  | nil => exact ends
  | cons first more =>
      intro c member
      cases member
      decide

theorem ends_writeMembers (level : Nat) (more : Members) {tail : List Char} (ends : Ends tail) :
    Ends (writeMembers level more ++ tail) := by
  cases more with
  | nil => exact ends
  | cons first more =>
      intro c member
      cases member
      decide

section
variable {item : List Char → Scan Json} {level outer : Nat} {rest : List Char}

theorem moreItems_comma {c : Char} {cs after : List Char} {first : Json}
    (visible : isBlank c = false) (open_ : c ≠ ']') (read : item (c :: cs) = .ok (first, after))
    (fuel : Nat) : moreItems item (fuel + 1) (',' :: (newLine level ++ c :: cs)) =
      (moreItems item fuel after).map fun (more, rest) => (first :: more, rest) := by
  have comma (cs : List Char) : skipBlank (',' :: cs) = ',' :: cs := skipBlank_cons (by decide) cs
  rw [moreItems, comma]
  simp only [skipBlank_newLine, skipBlank_cons visible]
  split
  · next same => cases same
  · next same =>
      cases same
      exact absurd rfl open_
  · simp only [read, bind, Except.bind, pure, Except.pure]
    cases moreItems item fuel after <;> rfl

/-- Each item costs one turn. -/
theorem moreItems_writeItems {more : List Json} (reads : ∀ json ∈ more, Reads item level json)
    {fuel : Nat} (enough : more.length < fuel) :
    moreItems item fuel (writeItems level more ++ (newLine outer ++ ']' :: rest)) =
      .ok (more, rest) := by
  induction more generalizing fuel with
  | nil =>
      obtain ⟨fuel, rfl⟩ := Nat.exists_eq_add_one.mpr enough
      rw [writeItems, List.nil_append, moreItems, skipBlank_newLine]
      rfl
  | cons first more ih =>
      obtain ⟨fuel, rfl⟩ := Nat.exists_eq_add_one.mpr (Nat.zero_lt_of_lt enough)
      obtain ⟨⟨⟨c, tail, head, visible, open_⟩, here⟩, later⟩ := List.forall_mem_cons.mp reads
      have read := here _ (ends_writeItems level more (ends_newLine outer (']' :: rest)))
      have others := ih later (Nat.lt_of_succ_lt_succ enough)
      rw [head, List.cons_append] at read
      have regroup : writeItems level (first :: more) ++ (newLine outer ++ ']' :: rest) =
          ',' :: (newLine level ++ c :: (tail ++ (writeItems level more ++
            (newLine outer ++ ']' :: rest)))) := by
        simp [writeItems, head]
      rw [regroup, moreItems_comma visible open_ read, others]
      rfl

theorem length_le_writeItems (level : Nat) (more : List Json) :
    more.length ≤ (writeItems level more).length := by
  induction more with
  | nil => exact Nat.le_refl 0
  | cons first more ih =>
      simp only [writeItems, List.length_cons, List.length_append]
      omega

theorem items_write {first : Json} {more : List Json}
    (reads : ∀ json ∈ first :: more, Reads item level json) :
    items item (newLine level ++ (write level first ++ (writeItems level more ++
      (newLine outer ++ ']' :: rest)))) = .ok (first :: more, rest) := by
  obtain ⟨⟨⟨c, tail, head, visible, open_⟩, here⟩, later⟩ := List.forall_mem_cons.mp reads
  have read := here _ (ends_writeItems level more (ends_newLine outer (']' :: rest)))
  have enough : more.length <
      (writeItems level more ++ (newLine outer ++ ']' :: rest)).length.succ := by
    have bound := length_le_writeItems level more
    rw [List.length_append]
    omega
  have others : moreItems item _ (writeItems level more ++ (newLine outer ++ ']' :: rest)) =
      .ok (more, rest) := moreItems_writeItems later enough
  rw [head, List.cons_append] at read ⊢
  rw [items, skipBlank_newLine, skipBlank_cons visible]
  split
  · next same => cases same
  · next same =>
      cases same
      exact absurd rfl open_
  · simp only [read, others, bind, Except.bind, pure, Except.pure]

theorem member_write (spaced : ∀ cs, item (' ' :: cs) = item cs) {m : String × Json}
    (reads : Reads item level m.2) (ends : Ends rest) :
    member item (writeString m.1 ++ ':' :: ' ' :: (write level m.2 ++ rest)) = .ok (m, rest) := by
  have regroup : writeString m.1 ++ ':' :: ' ' :: (write level m.2 ++ rest) =
      '"' :: (m.1.toList.flatMap writeChar ++ '"' :: ':' :: ' ' :: (write level m.2 ++ rest)) := by
    simp [writeString]
  have colon : skipBlank (':' :: ' ' :: (write level m.2 ++ rest)) =
      ':' :: ' ' :: (write level m.2 ++ rest) := skipBlank_cons (by decide) _
  rw [regroup, member]
  simp only [string_writeString, bind, Except.bind, colon, spaced, reads.2 rest ends, pure,
    Except.pure]

theorem moreMembers_comma {cs after : List Char} {first : String × Json}
    (read : member item ('"' :: cs) = .ok (first, after)) (fuel : Nat) :
    moreMembers item (fuel + 1) (',' :: (newLine level ++ '"' :: cs)) =
      (moreMembers item fuel after).map fun (more, rest) => (first :: more, rest) := by
  have comma (cs : List Char) : skipBlank (',' :: cs) = ',' :: cs := skipBlank_cons (by decide) cs
  have quote : skipBlank ('"' :: cs) = '"' :: cs := skipBlank_cons (by decide) cs
  rw [moreMembers, comma]
  simp only [skipBlank_newLine, quote]
  split
  · next same => cases same
  · next same => cases same
  · simp only [read, bind, Except.bind, pure, Except.pure]
    cases moreMembers item fuel after <;> rfl

theorem moreMembers_writeMembers (spaced : ∀ cs, item (' ' :: cs) = item cs) {more : Members}
    (reads : ∀ m ∈ more, Reads item level m.2) {fuel : Nat} (enough : more.length < fuel) :
    moreMembers item fuel (writeMembers level more ++ (newLine outer ++ '\x7d' :: rest)) =
      .ok (more, rest) := by
  induction more generalizing fuel with
  | nil =>
      obtain ⟨fuel, rfl⟩ := Nat.exists_eq_add_one.mpr enough
      rw [writeMembers, List.nil_append, moreMembers, skipBlank_newLine]
      rfl
  | cons first more ih =>
      obtain ⟨fuel, rfl⟩ := Nat.exists_eq_add_one.mpr (Nat.zero_lt_of_lt enough)
      obtain ⟨here, later⟩ := List.forall_mem_cons.mp reads
      have read := member_write spaced here
        (ends_writeMembers level more (ends_newLine outer ('\x7d' :: rest)))
      have others := ih later (Nat.lt_of_succ_lt_succ enough)
      rw [writeString, List.cons_append, List.cons_append] at read
      have regroup : writeMembers level (first :: more) ++ (newLine outer ++ '\x7d' :: rest) =
          ',' :: (newLine level ++ '"' :: (first.1.toList.flatMap writeChar ++ ['"'] ++
            ':' :: ' ' :: (write level first.2 ++ (writeMembers level more ++
              (newLine outer ++ '\x7d' :: rest))))) := by
        simp [writeMembers, writeString]
      rw [regroup, moreMembers_comma read, others]
      rfl

theorem length_le_writeMembers (level : Nat) (more : Members) :
    more.length ≤ (writeMembers level more).length := by
  induction more with
  | nil => exact Nat.le_refl 0
  | cons first more ih =>
      simp only [writeMembers, List.length_cons, List.length_append]
      omega

theorem members_write (spaced : ∀ cs, item (' ' :: cs) = item cs) {first : String × Json}
    {more : Members} (reads : ∀ m ∈ first :: more, Reads item level m.2) :
    members item (newLine level ++ (writeString first.1 ++ ':' :: ' ' :: (write level first.2 ++
      (writeMembers level more ++ (newLine outer ++ '\x7d' :: rest))))) =
      .ok (first :: more, rest) := by
  obtain ⟨here, later⟩ := List.forall_mem_cons.mp reads
  have read := member_write spaced here
    (ends_writeMembers level more (ends_newLine outer ('\x7d' :: rest)))
  have enough : more.length <
      (writeMembers level more ++ (newLine outer ++ '\x7d' :: rest)).length.succ := by
    have bound := length_le_writeMembers level more
    rw [List.length_append]
    omega
  have others : moreMembers item _ (writeMembers level more ++ (newLine outer ++ '\x7d' :: rest)) =
      .ok (more, rest) := moreMembers_writeMembers spaced later enough
  rw [writeString, List.cons_append, List.cons_append] at read ⊢
  rw [members, skipBlank_newLine, skipBlank_cons (by decide)]
  split
  · next same => cases same
  · next same => cases same
  · simp only [read, others, bind, Except.bind, pure, Except.pure]

end

/-! ### Whole values -/

theorem value_write {room : Nat} {json : Json} (fits : Fits room json) (whole : Whole json)
    (level : Nat) : Reads (value room) level json := by
  refine ⟨write_head fits whole level, ?_⟩
  induction fits generalizing level with
  | null => exact fun rest _ => value_null _ rest
  | bool b =>
      cases b with
      | true => exact fun rest _ => value_true _ rest
      | false => exact fun rest _ => value_false _ rest
  | int low high => exact fun rest ends => value_intText low high ends _
  | double bits => cases whole
  | str text => exact fun rest _ => value_writeString _ text rest
  | @arr room items each ih =>
      cases whole with
      | arr wholes =>
          intro rest _
          cases items with
          | nil => rfl
          | cons first more =>
              have reads : ∀ json ∈ first :: more, Reads (value room) (level + 1) json :=
                fun json member => ⟨write_head (each json member) (wholes json member) _,
                  ih json member (wholes json member) _⟩
              have regroup : write level (arr (first :: more)) ++ rest =
                  '[' :: (newLine (level + 1) ++ (write (level + 1) first ++
                    (writeItems (level + 1) more ++ (newLine level ++ ']' :: rest)))) := by
                simp [write]
              rw [regroup, value_bracket, items_write reads]
              rfl
  | @obj room members ascending each ih =>
      cases whole with
      | obj wholes =>
          intro rest _
          cases members with
          | nil => rfl
          | cons first more =>
              have reads : ∀ m ∈ first :: more, Reads (value room) (level + 1) m.2 :=
                fun m member => ⟨write_head (each m member) (wholes m member) _,
                  ih m member (wholes m member) _⟩
              have regroup : write level (obj (first :: more)) ++ rest =
                  '\x7b' :: (newLine (level + 1) ++ (writeString first.1 ++ ':' :: ' ' ::
                    (write (level + 1) first.2 ++ (writeMembers (level + 1) more ++
                      (newLine level ++ '\x7d' :: rest))))) := by
                simp [write]
              rw [regroup, value_brace, members_write (value_space room) reads]
              simp only [Except.map, Members.ofList_of_ascending ascending]

/-- A saved text, its last line ended, is read back as the value it was made from. -/
theorem parse_pretty {json : Json} (fits : Fits maxDepth json) (whole : Whole json) :
    parse (pretty json ++ "\n") = .ok json := by
  have ends : Ends ['\n'] := by
    intro c member
    cases member
    decide
  have text : (pretty json ++ "\n").toList = write 0 json ++ ['\n'] := by
    simp [pretty]
  have read := (value_write fits whole 0).2 ['\n'] ends
  simp only [parse, text, read]
  rfl

end DeviceConnect.Json
