import DeviceConnect.Json.Parser
import DeviceConnect.Proofs.Json.Shape

/-! Whatever is read from a text fits the room it was read with: by induction on that room. -/
namespace DeviceConnect.Json

theorem ok_of_bind {ε α β : Type} {x : Except ε α} {next : α → Except ε β} {b : β}
    (ok : (x >>= next) = .ok b) : ∃ a, x = .ok a ∧ next a = .ok b := by
  cases x with
  | error e => cases ok
  | ok a => exact ⟨a, rfl, ok⟩

theorem ok_of_map {ε α β : Type} {x : Except ε α} {f : α → β} {b : β}
    (ok : x.map f = .ok b) : ∃ a, x = .ok a ∧ f a = b := by
  cases x with
  | error e => cases ok
  | ok a => exact ⟨a, rfl, Except.ok.inj ok⟩

/-! ### Words and numbers -/

section
variable {room : Nat} {json : Json} {rest after : List Char}

theorem eq_of_word {found : Json} {more : List Char}
    (read : word found more rest = .ok (json, after)) : json = found := by
  induction more generalizing rest with
  | nil =>
      cases read
      rfl
  | cons want more ih =>
      cases rest with
      | nil => cases read
      | cons c rest =>
          rw [word] at read
          split at read
          · exact ih read
          · cases read

theorem significand_le {sofar : Nat} (small : sofar ≤ maxSignificand) (count : Nat)
    (cs : List Char) : (significand sofar count cs).1 ≤ maxSignificand := by
  induction cs generalizing sofar count with
  | nil => exact small
  | cons c rest ih =>
      rw [significand]
      split
      · next more =>
          rw [Bool.and_eq_true, decide_eq_true_iff] at more
          exact ih more.2 _
      · exact small

theorem finish_fits {negative : Bool} {digits : Nat} {scale : Int}
    (read : finish negative digits scale rest = .ok (json, after)) : Fits room json := by
  unfold finish at read
  split at read
  · cases read
    exact .double _
  · cases read

theorem exponentDigits_fits {negative rising : Bool} {digits sofar : Nat} {start : Int}
    (read : exponentDigits negative digits start rising sofar rest = .ok (json, after)) :
    Fits room json := by
  induction rest generalizing sofar with
  | nil => exact finish_fits read
  | cons c rest ih =>
      rw [exponentDigits] at read
      split at read
      · split at read
        · exact ih read
        · split at read
          · cases read
          · cases read
            exact .double _
      · exact finish_fits read

theorem exponent_fits {negative : Bool} {digits : Nat} {start : Int}
    (read : exponent negative digits start rest = .ok (json, after)) : Fits room json := by
  unfold exponent at read
  split at read
  split at read
  · cases read
  · split at read
    · exact exponentDigits_fits read
    · cases read

theorem afterDigits_fits {negative : Bool} {digits : Nat} {scale : Int}
    (read : afterDigits negative digits scale rest = .ok (json, after)) : Fits room json := by
  unfold afterDigits at read
  split at read
  · exact exponent_fits read
  · exact exponent_fits read
  · exact finish_fits read

theorem fraction_fits {negative : Bool} {digits : Nat} {scale : Int}
    (read : fraction negative digits scale rest = .ok (json, after)) : Fits room json := by
  unfold fraction at read
  split at read
  · cases read
  · split at read
    · exact afterDigits_fits read
    · cases read

/-- Only here does an integer come from a text, with digits that stayed within bounds. -/
theorem afterInteger_fits {negative : Bool} {digits : Nat} (small : digits ≤ maxSignificand)
    (read : afterInteger negative digits rest = .ok (json, after)) : Fits room json := by
  have bound : digits ≤ 18446744073709551615 := small
  unfold afterInteger at read
  split at read
  · exact fraction_fits read
  · exact exponent_fits read
  · exact exponent_fits read
  · split at read
    · cases read
      refine .int ?_ ?_
      · unfold minInt
        omega
      · unfold maxInt
        omega
    · split at read
      · next within =>
          have low : digits ≤ 9223372036854775808 := within.2
          cases read
          refine .int ?_ ?_
          · unfold minInt
            omega
          · unfold maxInt
            omega
      · cases read
        exact .double _

theorem number_fits {negative : Bool} (read : number negative rest = .ok (json, after)) :
    Fits room json := by
  have gathered (cs : List Char) : (significand 0 0 cs).1 ≤ maxSignificand :=
    significand_le (Nat.zero_le _) 0 cs
  unfold number at read
  split at read
  · cases read
  · split at read
    · split at read
      · cases read
      · exact afterInteger_fits (Nat.zero_le _) read
    · exact afterInteger_fits (Nat.zero_le _) read
  · next c rest _ =>
      split at read
      · dsimp only at read
        split at read
        · exact afterInteger_fits (gathered (c :: rest)) read
        · split at read
          · exact fraction_fits read
          · exact afterDigits_fits read
      · cases read

end

/-! ### Lists, objects and values -/

section
variable {room : Nat} {item : List Char → Scan Json}
  (each : ∀ {cs json rest}, item cs = .ok (json, rest) → Fits room json)
include each

theorem moreItems_fits {fuel : Nat} {cs rest : List Char} {xs : List Json}
    (read : moreItems item fuel cs = .ok (xs, rest)) : ∀ x ∈ xs, Fits room x := by
  induction fuel generalizing cs xs rest with
  | zero => cases read
  | succ fuel ih =>
      rw [moreItems] at read
      split at read
      · cases read
      · cases read
        exact fun _ none => nomatch none
      · split at read
        · cases read
        · cases read
        · obtain ⟨⟨first, left⟩, here, read⟩ := ok_of_bind read
          obtain ⟨⟨more, left⟩, later, read⟩ := ok_of_bind read
          cases read
          exact List.forall_mem_cons.mpr ⟨each here, ih later⟩
      · cases read

theorem items_fits {cs rest : List Char} {xs : List Json}
    (read : items item cs = .ok (xs, rest)) : ∀ x ∈ xs, Fits room x := by
  unfold items at read
  split at read
  · cases read
  · cases read
    exact fun _ none => nomatch none
  · obtain ⟨⟨first, left⟩, here, read⟩ := ok_of_bind read
    obtain ⟨⟨more, left⟩, later, read⟩ := ok_of_bind read
    cases read
    exact List.forall_mem_cons.mpr ⟨each here, moreItems_fits each later⟩

theorem member_fits {cs rest : List Char} {m : String × Json}
    (read : member item cs = .ok (m, rest)) : Fits room m.2 := by
  unfold member at read
  split at read
  · obtain ⟨⟨key, left⟩, _, read⟩ := ok_of_bind read
    dsimp only at read
    split at read
    · cases read
    · obtain ⟨⟨value, left⟩, here, read⟩ := ok_of_bind read
      cases read
      exact each here
    · cases read
  · cases read

theorem moreMembers_fits {fuel : Nat} {cs rest : List Char} {ms : List (String × Json)}
    (read : moreMembers item fuel cs = .ok (ms, rest)) : ∀ m ∈ ms, Fits room m.2 := by
  induction fuel generalizing cs ms rest with
  | zero => cases read
  | succ fuel ih =>
      rw [moreMembers] at read
      split at read
      · cases read
      · cases read
        exact fun _ none => nomatch none
      · split at read
        · cases read
        · cases read
        · obtain ⟨⟨first, left⟩, here, read⟩ := ok_of_bind read
          obtain ⟨⟨more, left⟩, later, read⟩ := ok_of_bind read
          cases read
          exact List.forall_mem_cons.mpr ⟨member_fits each here, ih later⟩
      · cases read

theorem members_fits {cs rest : List Char} {ms : List (String × Json)}
    (read : members item cs = .ok (ms, rest)) : ∀ m ∈ ms, Fits room m.2 := by
  unfold members at read
  split at read
  · cases read
  · cases read
    exact fun _ none => nomatch none
  · obtain ⟨⟨first, left⟩, here, read⟩ := ok_of_bind read
    obtain ⟨⟨more, left⟩, later, read⟩ := ok_of_bind read
    cases read
    exact List.forall_mem_cons.mpr ⟨member_fits each here, moreMembers_fits each later⟩

end

theorem value_fits {room : Nat} {cs rest : List Char} {json : Json}
    (read : value room cs = .ok (json, rest)) : Fits room json := by
  -- Nothing is known of the room until a bracket is met, so it is not split before.
  induction room using Nat.strongRecOn generalizing cs rest json with
  | ind room ih =>
      rw [value.eq_def] at read
      split at read
      · cases read
      · split at read
        · exact eq_of_word read ▸ .null
        · exact eq_of_word read ▸ .bool true
        · exact eq_of_word read ▸ .bool false
        · exact number_fits read
        · obtain ⟨⟨text, left⟩, _, read⟩ := ok_of_map read
          cases read
          exact .str text
        · split at read
          · cases read
          · next room =>
              obtain ⟨⟨xs, left⟩, found, read⟩ := ok_of_map read
              cases read
              exact .arr (items_fits (ih room (Nat.lt_succ_self room)) found)
        · split at read
          · cases read
          · next room =>
              obtain ⟨⟨ms, left⟩, found, read⟩ := ok_of_map read
              cases read
              exact .obj (Members.ascending_ofList ms) fun m member =>
                members_fits (ih room (Nat.lt_succ_self room)) found m (Members.mem_ofList member)
        · split at read
          · exact number_fits read
          · cases read

theorem parse_fits {text : String} {json : Json} (read : parse text = .ok json) :
    Fits maxDepth json := by
  unfold parse at read
  extract_lets cs at read
  split at read
  · cases read
  · next found =>
      split at read
      · cases read
        exact value_fits found
      · cases read

end DeviceConnect.Json
