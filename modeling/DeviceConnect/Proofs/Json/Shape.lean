import DeviceConnect.Json.Basic
import Mathlib.Data.String.Basic

/-! The shape of values that come from a text: how deep they nest, that their integers are kept as
integers, and that members stand in the order of their keys, each key once. -/
namespace DeviceConnect.Json

def Members.Ascending (members : Members) : Prop := members.Pairwise fun a b => a.1 < b.1

instance (members : Members) : Decidable members.Ascending :=
  inferInstanceAs (Decidable (members.Pairwise fun a b => a.1 < b.1))

/-- A value that opens at most `room` levels, with integers in range and members in order. -/
inductive Fits : Nat → Json → Prop
  | null {room} : Fits room .null
  | bool {room} (value : Bool) : Fits room (.bool value)
  | int {room} {n : Int} : minInt ≤ n → n ≤ maxInt → Fits room (.int n)
  | double {room} (bits : UInt64) : Fits room (.double bits)
  | str {room} (text : String) : Fits room (.str text)
  | arr {room items} : (∀ item ∈ items, Fits room item) → Fits (room + 1) (.arr items)
  | obj {room} {members : Members} : members.Ascending → (∀ m ∈ members, Fits room m.2) →
      Fits (room + 1) (.obj members)

/-- No number in the value is a double. -/
inductive Whole : Json → Prop
  | null : Whole .null
  | bool (value : Bool) : Whole (.bool value)
  | int (n : Int) : Whole (.int n)
  | str (text : String) : Whole (.str text)
  | arr {items} : (∀ item ∈ items, Whole item) → Whole (.arr items)
  | obj {members : Members} : (∀ m ∈ members, Whole m.2) → Whole (.obj members)

theorem fits_empty {room : Nat} : Fits (room + 1) (.obj []) :=
  .obj List.Pairwise.nil fun _ none => nomatch none

theorem whole_empty : Whole (.obj []) := .obj fun _ none => nomatch none

theorem fits_strings {room : Nat} (texts : List String) :
    Fits (room + 1) (.arr (texts.map .str)) := by
  refine .arr fun item listed => ?_
  obtain ⟨text, _, rfl⟩ := List.mem_map.mp listed
  exact .str text

theorem whole_strings (texts : List String) : Whole (.arr (texts.map .str)) := by
  refine .arr fun item listed => ?_
  obtain ⟨text, _, rfl⟩ := List.mem_map.mp listed
  exact .str text

/-- A value in so many pairs of brackets. -/
def bracketed : Nat → Json → Json
  | 0, json => json
  | n + 1, json => .arr [bracketed n json]

theorem fits_bracketed_iff {room n : Nat} {json : Json} :
    Fits (room + n) (bracketed n json) ↔ Fits room json := by
  induction n with
  | zero => rfl
  | succ n ih =>
      rw [← ih]
      constructor
      · rintro ⟨⟩
        next each => exact each _ List.mem_cons_self
      · intro fits
        exact .arr (List.forall_mem_singleton.mpr fits)

theorem whole_bracketed {n : Nat} {json : Json} (whole : Whole json) : Whole (bracketed n json) := by
  induction n with
  | zero => exact whole
  | succ n ih => exact .arr (List.forall_mem_singleton.mpr ih)

theorem Fits.of_obj {room : Nat} {members : Members} (fits : Fits (room + 1) (.obj members)) :
    members.Ascending ∧ ∀ m ∈ members, Fits room m.2 := by
  cases fits with
  | obj ascending each => exact ⟨ascending, each⟩

theorem Whole.of_obj {members : Members} (whole : Whole (.obj members)) :
    ∀ m ∈ members, Whole m.2 := by
  cases whole with
  | obj each => exact each

namespace Members

variable {members : Members} {key : String} {value : Json}

theorem mem_insert {m : String × Json} (member : m ∈ members.insert key value) :
    m = (key, value) ∨ m ∈ members := by
  induction members with
  | nil => exact .inl (List.mem_singleton.mp member)
  | cons first rest ih =>
      obtain ⟨k, old⟩ := first
      rw [insert] at member
      split at member
      · exact (List.mem_cons.mp member).imp_right (List.mem_cons_of_mem _)
      · split at member
        · exact List.mem_cons.mp member
        · rcases List.mem_cons.mp member with rfl | later
          · exact .inr List.mem_cons_self
          · exact (ih later).imp_right (List.mem_cons_of_mem _)

theorem ascending_insert (ascending : members.Ascending) (key : String) (value : Json) :
    (members.insert key value).Ascending := by
  induction members with
  | nil => exact List.pairwise_singleton _ _
  | cons first rest ih =>
      obtain ⟨k, old⟩ := first
      obtain ⟨below, tail⟩ := List.pairwise_cons.mp ascending
      rw [insert]
      split
      · next same => exact List.pairwise_cons.mpr ⟨fun m later => same ▸ below m later, tail⟩
      · next other =>
          split
          · next less =>
              refine List.pairwise_cons.mpr ⟨fun m member => ?_, ascending⟩
              rcases List.mem_cons.mp member with rfl | later
              · exact less
              · exact lt_trans less (below m later)
          · next notLess =>
              have greater : k < key := lt_of_le_of_ne (not_lt.mp notLess) (Ne.symm other)
              refine List.pairwise_cons.mpr ⟨fun m member => ?_, ih tail⟩
              rcases mem_insert member with rfl | later
              · exact greater
              · exact below m later

theorem find?_insert (members : Members) (key : String) (value : Json) :
    (members.insert key value).find? key = some value := by
  induction members with
  | nil => exact if_pos rfl
  | cons first rest ih =>
      obtain ⟨k, old⟩ := first
      rw [insert]
      split
      · exact if_pos rfl
      · next other =>
          split
          · exact if_pos rfl
          · rw [find?, if_neg (Ne.symm other), ih]

theorem mem_of_find? (found : members.find? key = some value) : (key, value) ∈ members := by
  induction members with
  | nil => cases found
  | cons first rest ih =>
      obtain ⟨k, other⟩ := first
      rw [find?] at found
      split at found
      · next own =>
          cases found
          subst own
          exact List.mem_cons_self
      · exact List.mem_cons_of_mem _ (ih found)

theorem find?_tail (ascending : Ascending ((key, value) :: members)) : members.find? key = none := by
  cases found : members.find? key with
  | none => rfl
  | some later =>
      have less : key < key := (List.pairwise_cons.mp ascending).1 _ (mem_of_find? found)
      exact absurd less (lt_irrefl key)

theorem insert_insert (members : Members) (key : String) (first second : Json) :
    (members.insert key first).insert key second = members.insert key second := by
  induction members with
  | nil => exact if_pos rfl
  | cons head rest ih =>
      obtain ⟨k, old⟩ := head
      by_cases own : key = k
      · simp only [insert, if_pos own, ↓reduceIte]
      · by_cases less : key < k
        · simp only [insert, if_neg own, if_pos less, ↓reduceIte]
        · simp only [insert, if_neg own, if_neg less, ih]

def others (members : Members) (key : String) : Members := members.filter fun m => m.1 ≠ key

theorem others_cons_self (value : Json) (rest : Members) :
    others ((key, value) :: rest) key = rest.others key :=
  List.filter_cons_of_neg (by simp)

theorem others_cons_of_ne {k : String} (differ : k ≠ key) (value : Json) (rest : Members) :
    others ((k, value) :: rest) key = (k, value) :: rest.others key :=
  List.filter_cons_of_pos (decide_eq_true differ)

theorem others_insert (members : Members) (key : String) (value : Json) :
    (members.insert key value).others key = members.others key := by
  induction members with
  | nil => exact others_cons_self value []
  | cons first rest ih =>
      obtain ⟨k, old⟩ := first
      rw [insert]
      split
      · next same =>
          subst same
          rw [others_cons_self, others_cons_self]
      · next differ =>
          split
          · exact others_cons_self value _
          · rw [others_cons_of_ne (Ne.symm differ), others_cons_of_ne (Ne.symm differ), ih]

theorem find?_others {other : String} (differ : other ≠ key) (members : Members) :
    (members.others key).find? other = members.find? other := by
  induction members with
  | nil => rfl
  | cons first rest ih =>
      obtain ⟨k, value⟩ := first
      by_cases own : k = key
      · subst own
        rw [others_cons_self, ih, find?, if_neg (Ne.symm differ)]
      · rw [others_cons_of_ne own, find?, find?, ih]

theorem find?_insert_of_ne {other : String} (differ : other ≠ key) (members : Members)
    (value : Json) : (members.insert key value).find? other = members.find? other := by
  rw [← find?_others differ, others_insert, find?_others differ]

theorem insert_of_forall_lt (behind : ∀ m ∈ members, m.1 < key) (value : Json) :
    members.insert key value = members ++ [(key, value)] := by
  induction members with
  | nil => rfl
  | cons first rest ih =>
      obtain ⟨k, old⟩ := first
      obtain ⟨less, others⟩ := List.forall_mem_cons.mp behind
      rw [insert, if_neg (ne_of_gt less), if_neg (not_lt_of_gt less), ih others, List.cons_append]

theorem ascending_foldl_insert (ascending : members.Ascending) (pairs : List (String × Json)) :
    Ascending (pairs.foldl (fun ms (k, v) => ms.insert k v) members) := by
  induction pairs generalizing members with
  | nil => exact ascending
  | cons pair rest ih => exact ih (ascending_insert ascending pair.1 pair.2)

theorem ascending_ofList (pairs : List (String × Json)) : (ofList pairs).Ascending :=
  ascending_foldl_insert List.Pairwise.nil pairs

theorem mem_foldl_insert {pairs : List (String × Json)} {m : String × Json}
    (member : m ∈ pairs.foldl (fun ms (k, v) => ms.insert k v) members) :
    m ∈ members ∨ m ∈ pairs := by
  induction pairs generalizing members with
  | nil => exact .inl member
  | cons pair rest ih =>
      rcases ih member with early | late
      · rcases mem_insert early with rfl | old
        · exact .inr List.mem_cons_self
        · exact .inl old
      · exact .inr (List.mem_cons_of_mem pair late)

theorem mem_ofList {pairs : List (String × Json)} {m : String × Json} (member : m ∈ ofList pairs) :
    m ∈ pairs := by
  rcases mem_foldl_insert member with none | here
  · cases none
  · exact here

theorem foldl_insert_of_ascending {pairs : Members} (ascending : Ascending (members ++ pairs)) :
    pairs.foldl (fun ms (k, v) => ms.insert k v) members = members ++ pairs := by
  induction pairs generalizing members with
  | nil => exact (List.append_nil members).symm
  | cons pair rest ih =>
      obtain ⟨k, v⟩ := pair
      have behind : ∀ m ∈ members, m.1 < k := fun m early =>
        (List.pairwise_append.mp ascending).2.2 m early (k, v) List.mem_cons_self
      have regroup : members ++ (k, v) :: rest = (members ++ [(k, v)]) ++ rest := by simp
      rw [regroup] at ascending ⊢
      simp only [List.foldl_cons, insert_of_forall_lt behind]
      exact ih ascending

theorem ofList_of_ascending (ascending : members.Ascending) : ofList members = members :=
  foldl_insert_of_ascending ascending

end Members
end DeviceConnect.Json
