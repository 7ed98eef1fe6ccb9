import DeviceConnect.Proofs.Naming
import Mathlib.Data.List.Basic

/-! The order of a blacklist. It holds each text that it was given once, at the place where it came
first, whichever way the texts were given: read with a document, put in its place, or added in turn. -/
namespace DeviceConnect

namespace Blacklist

variable {φ : Type} {disk : Disk φ}

theorem prefix_foldl_insertNew (entries wanted : List String) :
    entries <+: wanted.foldl insertNew entries := by
  induction wanted generalizing entries with
  | nil => exact List.prefix_rfl
  | cons entry rest ih => exact (prefix_insertNew entries entry).trans (ih _)

/-! ### First places -/

/-- The texts among `given`, in the order in which each of them comes first. -/
structure FirstOccurrences (given kept : List String) : Prop where
  members : ∀ e, e ∈ kept ↔ e ∈ given
  ordered : kept.Pairwise fun a b => given.idxOf a < given.idxOf b

namespace FirstOccurrences

variable {given kept kept' : List String}

theorem empty : FirstOccurrences [] [] := ⟨fun _ => Iff.rfl, .nil⟩

theorem nodup (first : FirstOccurrences given kept) : kept.Nodup := by
  refine List.Pairwise.imp ?_ first.ordered
  rintro a b sooner rfl
  exact Nat.lt_irrefl _ sooner

theorem unique (first : FirstOccurrences given kept) (first' : FirstOccurrences given kept') :
    kept = kept' := by
  have same : ∀ e, e ∈ kept ↔ e ∈ kept' := fun e => (first.members e).trans (first'.members e).symm
  have perm : kept.Perm kept' := (List.perm_ext_iff_of_nodup first.nodup first'.nodup).mpr same
  refine perm.eq_of_pairwise ?_ first.ordered first'.ordered
  intro a b _ _ sooner later
  exact absurd later (Nat.lt_asymm sooner)

theorem insertNew (first : FirstOccurrences given kept) (entry : String) :
    FirstOccurrences (given ++ [entry]) (insertNew kept entry) := by
  have early : ∀ e ∈ kept, (given ++ [entry]).idxOf e = given.idxOf e := fun e member =>
    List.idxOf_append_of_mem ((first.members e).mp member)
  have ordered : kept.Pairwise fun a b =>
      (given ++ [entry]).idxOf a < (given ++ [entry]).idxOf b := by
    refine first.ordered.imp_of_mem ?_
    intro a b here there sooner
    rw [early a here, early b there]
    exact sooner
  constructor
  · intro e
    rw [mem_insertNew_iff, first.members, List.mem_append, List.mem_singleton]
  · unfold Blacklist.insertNew
    split
    · exact ordered
    · next absent =>
        refine List.pairwise_append.mpr ⟨ordered, List.pairwise_singleton _ _, ?_⟩
        intro a here b last
        cases List.mem_singleton.mp last
        have late : entry ∉ given := mt (first.members entry).mpr absent
        rw [early a here, List.idxOf_append_of_notMem late]
        have place := List.idxOf_lt_length_of_mem ((first.members a).mp here)
        exact Nat.lt_add_right _ place

theorem foldl_insertNew (first : FirstOccurrences given kept) (wanted : List String) :
    FirstOccurrences (given ++ wanted) (wanted.foldl Blacklist.insertNew kept) := by
  induction wanted generalizing given kept with
  | nil => rwa [List.append_nil]
  | cons entry rest ih =>
      have step := ih (first.insertNew entry)
      rwa [List.append_assoc] at step

theorem distinct (given : List String) : FirstOccurrences given (distinct given) :=
  empty.foldl_insertNew given

theorem iff_eq_distinct : FirstOccurrences given kept ↔ kept = Blacklist.distinct given := by
  constructor
  · intro first
    exact first.unique (distinct given)
  · rintro rfl
    exact distinct given

end FirstOccurrences

/-! ### Changes and the texts they give -/

namespace Change

def extend : Change → List String → List String
  | add entry, given => given ++ [entry]
  | replace wanted, _ => wanted
  | clear, _ => []

theorem on_first (change : Change) {given kept : List String} (first : FirstOccurrences given kept) :
    FirstOccurrences (change.extend given) (change.on kept) := by
  cases change with
  | add entry => exact first.insertNew entry
  | replace wanted => exact .distinct wanted
  | clear => exact .empty

/-- The ways a change can go where what is written depends on `store`. -/
inductive Ends (disk : Disk φ) (store : Option Settings) (change : Change) (entries : List String)
    (files : φ) : Except SettingsError Bool × Blacklist × φ → Prop
  | unsaved {left : Blacklist} : change.on entries = entries → left.entries = entries →
      left.SavesLike store → Ends disk store change entries files (.ok false, left, files)
  | saved {left : Blacklist} {after} :
      saveList disk store (change.on entries) files = (.ok (), after) →
      left.entries = change.on entries → left.SavesLike store →
      Ends disk store change entries files (.ok true, left, after)
  | failed {left : Blacklist} {e after} :
      saveList disk store (change.on entries) files = (.error e, after) → left.entries = entries →
      left.SavesLike store → Ends disk store change entries files (.error e, left, after)

variable {store : Option Settings} {b : Blacklist}

theorem ends_of_commit {change : Change} (like : b.SavesLike store) (files : φ)
    (same : change.perform disk b files =
      let done := b.commit disk (change.on b.entries) files
      (done.1.map fun () => true, done.2)) :
    change.Ends disk store b.entries files (change.perform disk b files) := by
  obtain ⟨left, committed, like, entries⟩ := like.commit disk (change.on b.entries) files
  rw [same, committed]
  rcases written : saveList disk store (change.on b.entries) files with ⟨e | ⟨⟩, after⟩
  · rw [written] at entries
    exact .failed written entries like
  · rw [written] at entries
    exact .saved written entries like

theorem perform_ends (disk : Disk φ) (change : Change) (like : b.SavesLike store) (files : φ) :
    change.Ends disk store b.entries files (change.perform disk b files) := by
  cases change with
  | add entry =>
      by_cases present : entry ∈ b.entries
      · have same : (add entry).perform disk b files = (.ok false, b, files) :=
          add_of_mem disk present files
        rw [same]
        exact .unsaved (if_pos present) rfl like
      · apply ends_of_commit like
        have appended : (add entry).on b.entries = b.entries ++ [entry] := if_neg present
        rw [appended, perform]
        exact add_of_not_mem disk present files
  | replace wanted => exact ends_of_commit like files rfl
  | clear => exact ends_of_commit like files rfl

end Change

/-- How a blacklist came about, and the texts that it was given, in their order, since it last began
anew: when it was loaded or made, or when it was replaced or cleared. A failed change gives nothing. -/
inductive Gathered : List String → Blacklist → Prop
  | loaded {store : Settings} {stored : Option (List String)} {b : Blacklist} :
      store.get Json.asStrings Settings.blacklistKey = .ok stored → load store = .ok b →
      Gathered (stored.getD []) b
  | inMemory (given : List String) : Gathered given (inMemory given)
  | made {φ : Type} (disk : Disk φ) (change : Change) {given : List String} {b : Blacklist}
      (files : φ) {saved : Bool} : Gathered given b → (change.perform disk b files).1 = .ok saved →
      Gathered (change.extend given) (change.perform disk b files).2.1
  | failed {φ : Type} (disk : Disk φ) (change : Change) {given : List String} {b : Blacklist}
      (files : φ) {e : SettingsError} : Gathered given b →
      (change.perform disk b files).1 = .error e → Gathered given (change.perform disk b files).2.1

theorem Obtained.gathered {b : Blacklist} (obtained : b.Obtained) : ∃ given, Gathered given b := by
  induction obtained with
  | @loaded store b loaded =>
      cases read : store.get Json.asStrings Settings.blacklistKey with
      | error e =>
          simp only [load, read] at loaded
          cases loaded
      | ok stored => exact ⟨_, .loaded read loaded⟩
  | inMemory entries => exact ⟨entries, .inMemory entries⟩
  | changed disk change files _ ih =>
      obtain ⟨given, gathered⟩ := ih
      cases went : (change.perform disk _ files).1 with
      | error e => exact ⟨given, .failed disk change files gathered went⟩
      | ok saved => exact ⟨_, .made disk change files gathered went⟩

theorem Gathered.first {given : List String} {b : Blacklist} (gathered : Gathered given b) :
    FirstOccurrences given b.entries := by
  induction gathered with
  | @loaded store stored b read loaded =>
      simp only [load, read] at loaded
      cases loaded
      exact .distinct _
  | inMemory given => exact .distinct given
  | @made φ disk change given b files saved _ went ih =>
      have ends := change.perform_ends disk (rfl : b.SavesLike b.store) files
      generalize change.perform disk b files = done at ends went ⊢
      cases ends with
      | unsaved same kept _ =>
          rw [kept, ← same]
          exact change.on_first ih
      | saved _ kept _ =>
          rw [kept]
          exact change.on_first ih
      | failed _ _ _ => cases went
  | @failed φ disk change given b files e _ went ih =>
      have ends := change.perform_ends disk (rfl : b.SavesLike b.store) files
      generalize change.perform disk b files = done at ends went ⊢
      cases ends with
      | unsaved _ _ _ => cases went
      | saved _ _ _ => cases went
      | failed _ kept _ =>
          rw [kept]
          exact ih

/-! ### Changes in turn -/

def makeAll (disk : Disk φ) : List Change → Blacklist → φ →
    Except SettingsError Unit × Blacklist × φ
  | [], b, files => (.ok (), b, files)
  | change :: later, b, files =>
    match change.perform disk b files with
    | (.error e, b, files) => (.error e, b, files)
    | (.ok _, b, files) => makeAll disk later b files

/-- These files are what saving this list has left. -/
def LastSaved (disk : Disk φ) (store : Option Settings) (entries : List String) (files : φ) : Prop :=
  ∃ met, saveList disk store entries met = (.ok (), files)

/-- How changes end that are to leave these texts in the list and, if there is one, in its file. -/
structure Leaves (disk : Disk φ) (store : Option Settings) (texts : List String)
    (done : Except SettingsError Unit × Blacklist × φ) : Prop where
  snapshot : done.1 = .ok () → done.2.1.snapshot = texts
  file : ∀ s, store = some s → disk.ReadsBack → done.1 = .ok () →
    disk.contents? s.path done.2.2 = some (s.withBlacklist texts).text.toByteArray
  failed : ∀ e, done.1 = .error e →
    ∃ sooner met, sooner <+: texts ∧ (saveList disk store sooner met).1 = .error e

variable {store : Option Settings} {b left : Blacklist} {texts : List String} {files after : φ}

theorem Leaves.of_saved (kept : left.entries = texts) (saved : LastSaved disk store texts after) :
    Leaves disk store texts (.ok (), left, after) := by
  obtain ⟨met, written⟩ := saved
  refine ⟨fun _ => kept, ?_, nofun⟩
  rintro s rfl readsBack _
  exact Settings.contents?_of_save readsBack written

theorem Leaves.of_error {e : SettingsError} {sooner : List String} {met : φ}
    (part : sooner <+: texts) (refused : (saveList disk store sooner met).1 = .error e) :
    Leaves disk store texts (.error e, left, after) := by
  refine ⟨nofun, fun _ _ _ => nofun, ?_⟩
  rintro e' same
  cases same
  exact ⟨sooner, met, part, refused⟩

theorem replace_leaves (disk : Disk φ) (wanted : List String) (b : Blacklist) (files : φ) :
    Leaves disk b.store (distinct wanted) (b.replace disk wanted files) := by
  have like : b.SavesLike b.store := rfl
  obtain ⟨left, committed, _, entries⟩ := like.commit disk (distinct wanted) files
  rw [replace, committed]
  rcases written : saveList disk b.store (distinct wanted) files with ⟨e | ⟨⟩, after⟩
  · exact .of_error List.prefix_rfl (congrArg Prod.fst written)
  · rw [written] at entries
    exact .of_saved entries ⟨files, written⟩

/-- Additions to a list that was saved leave the list with the texts, or fail to save it with the
first of them. -/
theorem adds_leave (disk : Disk φ) (wanted : List String) (like : b.SavesLike store)
    (held : LastSaved disk store b.entries files) :
    Leaves disk store (wanted.foldl insertNew b.entries)
      (makeAll disk (wanted.map .add) b files) := by
  induction wanted generalizing b files with
  | nil => exact .of_saved rfl held
  | cons entry rest ih =>
      have ends := (Change.add entry).perform_ends disk like files
      rw [List.map_cons, makeAll, List.foldl_cons]
      generalize (Change.add entry).perform disk b files = went at ends
      have next : (Change.add entry).on b.entries = insertNew b.entries entry := rfl
      rw [← next]
      cases ends with
      | unsaved same kept like =>
          rw [same, ← kept]
          exact ih like (kept ▸ held)
      | saved written kept like =>
          rw [← kept] at written ⊢
          exact ih like ⟨files, written⟩
      | failed refused _ _ =>
          exact .of_error (prefix_foldl_insertNew _ rest) (congrArg Prod.fst refused)

theorem makeAll_clear (disk : Disk φ) (later : List Change) (b : Blacklist) (files : φ) :
    makeAll disk (.clear :: later) b files = match b.replace disk [] files with
      | (.error e, b, files) => (.error e, b, files)
      | (.ok (), b, files) => makeAll disk later b files := by
  rw [makeAll, Change.perform, clear]
  rcases b.replace disk [] files with ⟨e | ⟨⟩, left, after⟩
  · rfl
  · rfl

theorem rebuild_leaves (disk : Disk φ) (wanted : List String) (b : Blacklist) (files : φ) :
    Leaves disk b.store (distinct wanted) (makeAll disk (.clear :: wanted.map .add) b files) := by
  have like : b.SavesLike b.store := rfl
  obtain ⟨left, committed, like, entries⟩ := like.commit disk [] files
  have nothing : distinct [] = [] := rfl
  rw [makeAll_clear, replace, nothing, committed]
  rcases written : saveList disk b.store [] files with ⟨e | ⟨⟩, after⟩
  · exact .of_error List.nil_prefix (congrArg Prod.fst written)
  · rw [written] at entries
    have empty : left.entries = [] := entries
    have held : LastSaved disk b.store left.entries after := by
      rw [empty]
      exact ⟨files, written⟩
    have rebuilt := adds_leave disk wanted like held
    rwa [empty] at rebuilt

/-- A blacklist holds the first occurrences of the texts it was given since it last began anew. Given
the same texts, it holds the same list in the same file, whether it is made or loaded with them, has
them put in place of others, or is cleared and has them added in turn; those that write can fail only
where these texts, or the first of them, cannot be saved. -/
theorem same_texts_make_same_list :
    (∀ b, Obtained b → ∃ given, Gathered given b) ∧
      (∀ given b, Gathered given b → b.snapshot.Nodup ∧ FirstOccurrences given b.snapshot) ∧
      ∀ given, ∃ firsts, (∀ kept, FirstOccurrences given kept ↔ kept = firsts) ∧
        (inMemory given).snapshot = firsts ∧
        (∀ s : Settings, s.root.find? Settings.blacklistKey = some (.arr (given.map .str)) →
          ∃ b, load s = .ok b ∧ b.snapshot = firsts) ∧
        ∀ (φ : Type) (disk : Disk φ) (b : Blacklist) (files : φ),
          Leaves disk b.store firsts (b.replace disk given files) ∧
            Leaves disk b.store firsts (makeAll disk (.clear :: given.map .add) b files) := by
  refine ⟨fun b obtained => obtained.gathered, ?_, ?_⟩
  · intro given b gathered
    exact ⟨gathered.first.nodup, gathered.first⟩
  · intro given
    refine ⟨distinct given, fun kept => FirstOccurrences.iff_eq_distinct, rfl, ?_, ?_⟩
    · intro s there
      exact ⟨_, load_of_stored there, rfl⟩
    · intro φ disk b files
      exact ⟨replace_leaves disk given b files, rebuild_leaves disk given b files⟩

/-- Texts given more than once: loaded, put in place of others, and added in turn. -/
theorem repeated_texts_make_same_list :
    let given := ["b", "a", "b", "c", "a"]
    let firsts := ["b", "a", "c"]
    let s : Settings := ⟨"./.tether/settings.json",
      [("blacklist", .arr (given.map .str)), ("connect", .obj [("retries", .int 3)])]⟩
    let b : Blacklist := ⟨["c", "z"], some s⟩
    let replaced := b.replace treeDisk given .empty
    let rebuilt := makeAll treeDisk (.clear :: given.map .add) b .empty
    Gathered given (inMemory given) ∧ FirstOccurrences given (inMemory given).snapshot ∧
      (∃ loaded, load s = .ok loaded ∧ loaded.snapshot = firsts) ∧
      replaced.1 = .ok () ∧ rebuilt.1 = .ok () ∧
      replaced.2.1.snapshot = firsts ∧ rebuilt.2.1.snapshot = firsts ∧
      treeDisk.contents? s.path replaced.2.2 = some (s.withBlacklist firsts).text.toByteArray ∧
      treeDisk.contents? s.path rebuilt.2.2 = some (s.withBlacklist firsts).text.toByteArray := by
  intro given firsts s b replaced rebuilt
  obtain ⟨_, first, alike⟩ := same_texts_make_same_list
  obtain ⟨kept, _, held, stored, changed⟩ := alike given
  have same : (inMemory given).snapshot = firsts := by decide
  have found : kept = firsts := held.symm.trans same
  rw [found] at stored changed
  obtain ⟨put, added⟩ : Leaves treeDisk (some s) firsts replaced ∧
      Leaves treeDisk (some s) firsts rebuilt := changed FileTree treeDisk b .empty
  have replaces : replaced.1 = .ok () := by decide +kernel
  have rebuilds : rebuilt.1 = .ok () := by decide +kernel
  clear_value replaced rebuilt
  exact ⟨.inMemory given, (first _ _ (.inMemory given)).2, stored s rfl, replaces, rebuilds,
    put.snapshot replaces, added.snapshot rebuilds, put.file s rfl treeDisk_readsBack replaces,
    added.file s rfl treeDisk_readsBack rebuilds⟩

end Blacklist
end DeviceConnect
