import DeviceConnect.Blacklist
import DeviceConnect.Proofs.Settings

/-! Changes of a blacklist, each of which may fail to be saved and may meet a file that others have
touched. What is held follows from the changes that succeeded, and what was saved is what is held. -/
namespace DeviceConnect

def Settings.withBlacklist (s : Settings) (entries : List String) : Settings :=
  s.set blacklistKey (.arr (entries.map .str))

namespace Blacklist

variable {φ : Type} {disk : Disk φ}

/-! ### Entries -/

theorem mem_insertNew {entries : List String} {e entry : String}
    (member : e ∈ insertNew entries entry) : e ∈ entries ∨ e = entry := by
  unfold insertNew at member
  split at member
  · exact .inl member
  · exact (List.mem_append.mp member).imp_right List.mem_singleton.mp

theorem prefix_insertNew (entries : List String) (entry : String) :
    entries <+: insertNew entries entry := by
  unfold insertNew
  split
  · exact List.prefix_rfl
  · exact List.prefix_append entries [entry]

theorem self_mem_insertNew (entries : List String) (entry : String) :
    entry ∈ insertNew entries entry := by
  unfold insertNew
  split
  · next present => exact present
  · exact List.mem_append_right entries List.mem_cons_self

theorem insertNew_nodup {entries : List String} (nodup : entries.Nodup) (entry : String) :
    (insertNew entries entry).Nodup := by
  unfold insertNew
  split
  · exact nodup
  · next absent =>
      refine List.nodup_append.mpr ⟨nodup, by simp, ?_⟩
      rintro e member _ last rfl
      exact absent (List.mem_singleton.mp last ▸ member)

theorem foldl_insertNew_nodup {entries : List String} (nodup : entries.Nodup)
    (wanted : List String) : (wanted.foldl insertNew entries).Nodup := by
  induction wanted generalizing entries with
  | nil => exact nodup
  | cons entry rest ih => exact ih (insertNew_nodup nodup entry)

theorem distinct_nodup (wanted : List String) : (distinct wanted).Nodup :=
  foldl_insertNew_nodup List.nodup_nil wanted

theorem mem_foldl_insertNew {entries wanted : List String} {e : String}
    (member : e ∈ wanted.foldl insertNew entries) : e ∈ entries ∨ e ∈ wanted := by
  induction wanted generalizing entries with
  | nil => exact .inl member
  | cons entry rest ih =>
      rcases ih member with early | late
      · rcases mem_insertNew early with old | rfl
        · exact .inl old
        · exact .inr List.mem_cons_self
      · exact .inr (List.mem_cons_of_mem entry late)

theorem foldl_insertNew_of_nodup {entries wanted : List String}
    (nodup : (entries ++ wanted).Nodup) : wanted.foldl insertNew entries = entries ++ wanted := by
  induction wanted generalizing entries with
  | nil => exact (List.append_nil entries).symm
  | cons entry rest ih =>
      have absent : entry ∉ entries := by
        intro early
        exact (List.nodup_append.mp nodup).2.2 entry early entry List.mem_cons_self rfl
      have regroup : entries ++ entry :: rest = (entries ++ [entry]) ++ rest := by simp
      rw [regroup] at nodup ⊢
      simpa only [List.foldl_cons, insertNew, if_neg absent] using ih nodup

theorem distinct_of_nodup {wanted : List String} (nodup : wanted.Nodup) : distinct wanted = wanted :=
  foldl_insertNew_of_nodup nodup

/-! ### The list in its document -/

theorem asStrings_map_str (entries : List String) :
    Json.asStrings (.arr (entries.map .str)) = .ok entries := by
  rw [Json.asStrings]
  induction entries with
  | nil => rfl
  | cons entry rest ih =>
      rw [List.map_cons, List.mapM_cons, ih]
      rfl

theorem load_of_stored {s : Settings} {stored : List String}
    (there : s.root.find? Settings.blacklistKey = some (.arr (stored.map .str))) :
    load s = .ok ⟨distinct stored, some s⟩ := by
  simp only [load, Settings.get, there, asStrings_map_str, Option.getD_some]

theorem load_withBlacklist (s : Settings) {entries : List String} (nodup : entries.Nodup) :
    load (s.withBlacklist entries) = .ok ⟨entries, some (s.withBlacklist entries)⟩ := by
  have stored : (s.withBlacklist entries).root.find? Settings.blacklistKey =
      some (.arr (entries.map .str)) := Json.Members.find?_insert s.root _ _
  rw [load_of_stored stored, distinct_of_nodup nodup]

theorem load_path {s : Settings} {b : Blacklist} (loaded : load s = .ok b)
    (path' : String) : ∃ b', load ⟨path', s.root⟩ = .ok b' ∧ b'.entries = b.entries := by
  unfold load Settings.get at loaded ⊢
  dsimp only
  generalize s.root.find? Settings.blacklistKey = member at loaded ⊢
  cases member with
  | none =>
      cases loaded
      exact ⟨_, rfl, rfl⟩
  | some json =>
      dsimp only at loaded ⊢
      generalize json.asStrings = read at loaded ⊢
      cases read with
      | error e => cases loaded
      | ok entries =>
          cases loaded
          exact ⟨_, rfl, rfl⟩

section
variable {wanted held : List String} {s : Settings} {files after : φ}

theorem commit_of_ok (written : (s.withBlacklist wanted).save disk files = (.ok (), after)) :
    commit disk wanted ⟨held, some s⟩ files =
      (.ok (), ⟨wanted, some (s.withBlacklist wanted)⟩, after) := by
  unfold Settings.withBlacklist at written ⊢
  simp only [commit, written]

theorem commit_of_error {e : SettingsError}
    (written : (s.withBlacklist wanted).save disk files = (.error e, after)) :
    commit disk wanted ⟨held, some s⟩ files =
      (.error e, ⟨held, some (s.withBlacklist wanted)⟩, after) := by
  unfold Settings.withBlacklist at written ⊢
  simp only [commit, written]

end

theorem commit_entries (disk : Disk φ) (entries : List String) (b : Blacklist) (files : φ) :
    (b.commit disk entries files).2.1.entries = entries ∨
      (b.commit disk entries files).2.1.entries = b.entries := by
  obtain ⟨held, store⟩ := b
  cases store with
  | none => exact .inl rfl
  | some s =>
      rcases written : (s.withBlacklist entries).save disk files with ⟨e | ⟨⟩, after⟩
      · rw [commit_of_error written]
        exact .inr rfl
      · rw [commit_of_ok written]
        exact .inl rfl

theorem add_of_mem (disk : Disk φ) {entry : String} {b : Blacklist} (present : entry ∈ b.entries)
    (files : φ) : b.add disk entry files = (.ok false, b, files) := if_pos (decide_eq_true present)

theorem add_of_not_mem (disk : Disk φ) {entry : String} {b : Blacklist} (absent : entry ∉ b.entries)
    (files : φ) : b.add disk entry files =
      let done := b.commit disk (b.entries ++ [entry]) files
      (done.1.map fun () => true, done.2) := by
  have missing : b.contains entry = false := decide_eq_false absent
  simp only [add, missing]
  rcases b.commit disk (b.entries ++ [entry]) files with ⟨e | ⟨⟩, left, after⟩
  · rfl
  · rfl

theorem add_entries (disk : Disk φ) (entry : String) (b : Blacklist) (files : φ) :
    (b.add disk entry files).2.1.entries = b.entries ∨
      (b.add disk entry files).2.1.entries = insertNew b.entries entry := by
  by_cases present : entry ∈ b.entries
  · rw [add_of_mem disk present]
    exact .inl rfl
  · rw [add_of_not_mem disk present, insertNew, if_neg present]
    exact (b.commit_entries disk (b.entries ++ [entry]) files).symm

theorem prefix_add (disk : Disk φ) (entry : String) (b : Blacklist) (files : φ) :
    b.entries <+: (b.add disk entry files).2.1.entries := by
  rcases add_entries disk entry b files with same | same
  · exact ⟨[], (List.append_nil b.entries).trans same.symm⟩
  · rw [same]
    exact prefix_insertNew b.entries entry

/-- A blacklist without repetitions, bound to a document that its text restores. -/
structure Bound (path : String) (b : Blacklist) : Prop where
  nodup : b.entries.Nodup
  store : ∃ s, b.store = some s ∧ s.path = path ∧ s.Restorable

theorem bound_of_load {path : String} {files : φ} {store : Settings} {b : Blacklist}
    (opened : Settings.load disk path files = .ok store) (whole : Json.Whole (.obj store.root))
    (loaded : load store = .ok b) : b.Bound path := by
  obtain ⟨same, fits⟩ := Settings.fits_of_load opened
  unfold load at loaded
  split at loaded
  · cases loaded
  · cases loaded
    exact ⟨distinct_nodup _, store, rfl, same, fits, whole⟩

/-! ### Changes -/

inductive Change where
  | add (entry : String)
  | replace (wanted : List String)
  | clear

namespace Change

def on : Change → List String → List String
  | add entry, entries => insertNew entries entry
  | replace wanted, _ => distinct wanted
  | clear, _ => []

def given : Change → List String
  | add entry => [entry]
  | replace wanted => wanted
  | clear => []

/-- Makes a change and says whether it was saved: an entry that is there already is not. -/
def perform (disk : Disk φ) (change : Change) (b : Blacklist) (files : φ) :
    Except SettingsError Bool × Blacklist × φ :=
  match change with
  | add entry => b.add disk entry files
  | replace wanted =>
    let done := b.replace disk wanted files
    (done.1.map fun () => true, done.2)
  | clear =>
    let done := b.clear disk files
    (done.1.map fun () => true, done.2)

theorem on_nodup (change : Change) {entries : List String} (nodup : entries.Nodup) :
    (change.on entries).Nodup := by
  cases change with
  | add entry => exact insertNew_nodup nodup entry
  | replace wanted => exact distinct_nodup wanted
  | clear => exact List.nodup_nil

theorem mem_on {change : Change} {entries : List String} {e : String}
    (member : e ∈ change.on entries) : e ∈ entries ∨ e ∈ change.given := by
  cases change with
  | add entry => exact (mem_insertNew member).imp_right List.mem_singleton.mpr
  | replace wanted => exact .inr ((mem_foldl_insertNew member).resolve_left List.not_mem_nil)
  | clear => cases member

/-- The ways a change can go. Where it was saved or should have been, the document holds the new
list; the entries are the new ones only if that document was written. -/
inductive Goes (disk : Disk φ) (change : Change) (b : Blacklist) (s : Settings) (files : φ) :
    Except SettingsError Bool × Blacklist × φ → Prop
  | unsaved : change.on b.entries = b.entries → Goes disk change b s files (.ok false, b, files)
  | saved {after} : (s.withBlacklist (change.on b.entries)).save disk files = (.ok (), after) →
      Goes disk change b s files
        (.ok true, ⟨change.on b.entries, some (s.withBlacklist (change.on b.entries))⟩, after)
  | failed {e after} : (s.withBlacklist (change.on b.entries)).save disk files = (.error e, after) →
      Goes disk change b s files
        (.error e, ⟨b.entries, some (s.withBlacklist (change.on b.entries))⟩, after)

theorem goes_of_commit {change : Change} {entries : List String} {s : Settings} {files : φ}
    (same : change.perform disk ⟨entries, some s⟩ files =
      let done := commit disk (change.on entries) ⟨entries, some s⟩ files
      (done.1.map fun () => true, done.2)) :
    change.Goes disk ⟨entries, some s⟩ s files (change.perform disk ⟨entries, some s⟩ files) := by
  rw [same]
  rcases written : (s.withBlacklist (change.on entries)).save disk files with ⟨e | ⟨⟩, after⟩
  · rw [commit_of_error written]
    exact .failed written
  · rw [commit_of_ok written]
    exact .saved written

theorem perform_goes (disk : Disk φ) (change : Change) {b : Blacklist} {s : Settings}
    (bound : b.store = some s) (files : φ) : change.Goes disk b s files (change.perform disk b files) := by
  obtain ⟨entries, store⟩ := b
  cases bound
  cases change with
  | add entry =>
      by_cases present : entry ∈ entries
      · have same : (add entry).perform disk ⟨entries, some s⟩ files =
            (.ok false, ⟨entries, some s⟩, files) := by
          rw [perform]
          exact add_of_mem disk present files
        rw [same]
        exact .unsaved (if_pos present)
      · apply goes_of_commit
        have appended : (add entry).on entries = entries ++ [entry] := if_neg present
        rw [appended, perform]
        exact add_of_not_mem disk present files
  | replace wanted => exact goes_of_commit rfl
  | clear => exact goes_of_commit rfl

theorem perform_bound (disk : Disk φ) (change : Change) {path : String} {b : Blacklist}
    (bound : b.Bound path) (files : φ) : (change.perform disk b files).2.1.Bound path := by
  obtain ⟨nodup, s, stored, same, restorable⟩ := bound
  have document : ∃ s' : Settings, some (s.withBlacklist (change.on b.entries)) = some s' ∧
      s'.path = path ∧ s'.Restorable :=
    ⟨_, rfl, same, restorable.set_blacklist (change.on b.entries)⟩
  have goes := change.perform_goes disk stored files
  generalize change.perform disk b files = done at goes
  cases goes with
  | unsaved _ => exact ⟨nodup, s, stored, same, restorable⟩
  | saved _ => exact ⟨change.on_nodup nodup, document⟩
  | failed _ => exact ⟨nodup, document⟩

end Change

theorem commit_nodup (disk : Disk φ) {entries : List String} {b : Blacklist}
    (new : entries.Nodup) (old : b.entries.Nodup) (files : φ) :
    (b.commit disk entries files).2.1.entries.Nodup := by
  rcases commit_entries disk entries b files with same | same
  · rw [same]
    exact new
  · rw [same]
    exact old

theorem add_nodup (disk : Disk φ) (entry : String) {b : Blacklist} (nodup : b.entries.Nodup)
    (files : φ) : (b.add disk entry files).2.1.entries.Nodup := by
  rcases add_entries disk entry b files with same | same
  · rw [same]
    exact nodup
  · rw [same]
    exact insertNew_nodup nodup entry

theorem Change.perform_nodup (disk : Disk φ) (change : Change) {b : Blacklist}
    (nodup : b.entries.Nodup) (files : φ) : (change.perform disk b files).2.1.entries.Nodup := by
  cases change with
  | add entry => exact add_nodup disk entry nodup files
  | replace wanted => exact b.commit_nodup disk (distinct_nodup wanted) nodup files
  | clear => exact b.commit_nodup disk (distinct_nodup []) nodup files

/-- How a blacklist comes about: out of a document or of given entries, and by changes, of which
each may have been saved or not. -/
inductive Obtained : Blacklist → Prop
  | loaded {store : Settings} {b : Blacklist} : load store = .ok b → Obtained b
  | inMemory (entries : List String) : Obtained (inMemory entries)
  | changed {φ : Type} (disk : Disk φ) (change : Change) {b : Blacklist} (files : φ) :
      Obtained b → Obtained (change.perform disk b files).2.1

theorem Obtained.nodup {b : Blacklist} (obtained : b.Obtained) : b.entries.Nodup := by
  induction obtained with
  | @loaded store b loaded =>
      unfold load at loaded
      split at loaded
      · cases loaded
      · cases loaded
        exact distinct_nodup _
  | inMemory entries => exact distinct_nodup entries
  | changed disk change files _ ih => exact change.perform_nodup disk ih files

/-! ### Runs of changes -/

/-- Makes changes in turn, each on the files that it meets: those that succeeded, and what is left. -/
def run (disk : Disk φ) : List (Change × φ) → Blacklist → List Change × Blacklist
  | [], b => ([], b)
  | (change, files) :: later, b =>
    let done := change.perform disk b files
    let rest := run disk later done.2.1
    (if done.1.isOk then change :: rest.1 else rest.1, rest.2)

theorem run_bound (disk : Disk φ) {path : String} {b : Blacklist} (bound : b.Bound path)
    (steps : List (Change × φ)) : (b.run disk steps).2.Bound path := by
  induction steps generalizing b with
  | nil => exact bound
  | cons step later ih => exact ih (step.1.perform_bound disk bound step.2)

theorem run_entries (disk : Disk φ) {path : String} {b : Blacklist} (bound : b.Bound path)
    (steps : List (Change × φ)) : (b.run disk steps).2.entries =
      (b.run disk steps).1.foldl (fun entries change => change.on entries) b.entries := by
  induction steps generalizing b with
  | nil => rfl
  | cons step later ih =>
      obtain ⟨change, files⟩ := step
      have next := ih (change.perform_bound disk bound files)
      obtain ⟨s, stored, _⟩ := bound.store
      have goes := change.perform_goes disk stored files
      simp only [run]
      generalize change.perform disk b files = done at goes next
      cases goes with
      | unsaved same =>
          rw [next]
          exact congrArg (List.foldl _ · _) same.symm
      | saved _ => exact next
      | failed _ => exact next

theorem mem_foldl_on {changes : List Change} {entries : List String} {e : String}
    (member : e ∈ changes.foldl (fun entries change => change.on entries) entries) :
    e ∈ entries ∨ ∃ change ∈ changes, e ∈ change.given := by
  induction changes generalizing entries with
  | nil => exact .inl member
  | cons change later ih =>
      rcases ih member with early | ⟨other, listed, given⟩
      · rcases Change.mem_on early with old | given
        · exact .inl old
        · exact .inr ⟨change, List.mem_cons_self, given⟩
      · exact .inr ⟨other, List.mem_cons_of_mem change listed, given⟩

/-- What a change does to a list whose entries are all `known`, given how it went. -/
structure Keeps (disk : Disk φ) (path : String) (known : String → Prop) (before : Blacklist)
    (change : Change) (files : φ) (done : Except SettingsError Bool × Blacklist × φ) : Prop where
  failed : ∀ e, done.1 = .error e → done.2.1.snapshot = before.snapshot ∧
    done.2.1.length = before.length ∧ ∀ entry, done.2.1.contains entry = before.contains entry
  succeeded : ∀ saved, done.1 = .ok saved → done.2.1.snapshot = change.on before.snapshot
  unsaved : done.1 = .ok false → done.2 = (before, files)
  /-- The file that was written holds the list, and no entry that only failed changes brought. -/
  saved : done.1 = .ok true → ∃ store reloaded,
    Settings.load disk path done.2.2 = .ok store ∧ load store = .ok reloaded ∧
      reloaded.snapshot = done.2.1.snapshot ∧
      ∀ entry ∈ reloaded.snapshot, known entry ∨ entry ∈ change.given

theorem Bound.keeps (readsBack : disk.ReadsBack) {path : String} {b : Blacklist}
    (bound : b.Bound path) {known : String → Prop} (all : ∀ entry ∈ b.entries, known entry)
    (change : Change) (files : φ) :
    Keeps disk path known b change files (change.perform disk b files) := by
  obtain ⟨nodup, s, stored, rfl, restorable⟩ := bound
  have goes := change.perform_goes disk stored files
  generalize change.perform disk b files = done at goes
  cases goes with
  | unsaved same => exact ⟨nofun, fun _ _ => same.symm, fun _ => rfl, nofun⟩
  | failed _ => exact ⟨fun _ _ => ⟨rfl, rfl, fun _ => rfl⟩, nofun, nofun, nofun⟩
  | @saved after written =>
      refine ⟨nofun, fun _ _ => rfl, nofun, fun _ => ?_⟩
      have reopened := (restorable.set_blacklist (change.on b.entries)).load_of_contents?
        (Settings.contents?_of_save readsBack written)
      refine ⟨_, _, reopened, load_withBlacklist s (change.on_nodup nodup), rfl, ?_⟩
      intro entry member
      exact (Change.mem_on member).imp_left (all entry)

/-- A list that was loaded from a document without doubles: after any changes it is what those that
succeeded make of it, and the next one leaves either both list and file in order or the list alone. -/
theorem failed_changes_leave_no_trace (readsBack : disk.ReadsBack) {path : String} {files : φ}
    {store : Settings} {b : Blacklist} (opened : Settings.load disk path files = .ok store)
    (whole : Json.Whole (.obj store.root)) (loaded : load store = .ok b)
    (steps : List (Change × φ)) :
    let left := (b.run disk steps).2
    let succeeded := (b.run disk steps).1
    left.snapshot = succeeded.foldl (fun entries change => change.on entries) b.snapshot ∧
      ∀ change files, Keeps disk path
        (fun entry => entry ∈ b.snapshot ∨ ∃ earlier ∈ succeeded, entry ∈ earlier.given)
        left change files (change.perform disk left files) := by
  have bound := bound_of_load opened whole loaded
  have entries := run_entries disk bound steps
  refine ⟨entries, (run_bound disk bound steps).keeps readsBack fun entry member => ?_⟩
  rw [entries] at member
  exact mem_foldl_on member

/-- A list of one entry, a failed addition, and one that is saved. -/
theorem failed_addition_is_not_saved_later :
    let store : Settings := ⟨"./.tether/settings.json",
      [("blacklist", .arr [.str "a", .str "a"]), ("connect", .obj [("retries", .int 3)])]⟩
    let files : FileTree := ⟨[([".tether"], .directory),
      ([".tether", "settings.json"], .file store.text.toByteArray)]⟩
    let b : Blacklist := ⟨["a"], some store⟩
    let steps : List (Change × FileTree) := [(.add "b", ⟨[([".tether"], .file .empty)]⟩)]
    let done := (Change.add "c").perform treeDisk (b.run treeDisk steps).2 .empty
    Settings.load treeDisk store.path files = .ok store ∧ load store = .ok b ∧
      (b.run treeDisk steps).1 = [] ∧ done.1 = .ok true ∧
      ∃ saved reloaded, Settings.load treeDisk store.path done.2.2 = .ok saved ∧
        load saved = .ok reloaded ∧ reloaded.snapshot = ["a", "c"] := by
  intro store files b steps done
  have read (bytes : ByteArray) : treeDisk.read "./.tether/settings.json"
      ⟨[([".tether"], .directory), ([".tether", "settings.json"], .file bytes)]⟩ = .ok bytes := rfl
  have restorable : store.Restorable := by
    refine ⟨.obj (by decide +kernel) ?_, .obj ?_⟩
    · refine List.forall_mem_cons.mpr ⟨.arr ?_, List.forall_mem_singleton.mpr (.obj (by decide) ?_)⟩
      · simp [Json.Fits.str]
      · exact List.forall_mem_singleton.mpr (.int (by decide) (by decide))
    · refine List.forall_mem_cons.mpr ⟨.arr ?_, List.forall_mem_singleton.mpr (.obj ?_)⟩
      · simp [Json.Whole.str]
      · simp [Json.Whole.int]
  have opened : Settings.load treeDisk store.path files = .ok store :=
    restorable.load_of_contents? (Disk.contents?_eq_some.mpr (read _))
  have loaded : load store = .ok b := rfl
  have failed : (b.run treeDisk steps).1 = [] := List.isEmpty_iff.mp (by decide +kernel)
  have written : done.1 = .ok true := by decide +kernel
  have left : done.2.1.snapshot = ["a", "c"] := by decide +kernel
  have kept : Keeps treeDisk store.path _ _ (.add "c") .empty done :=
    (failed_changes_leave_no_trace treeDisk_readsBack opened restorable.whole loaded steps).2 _ _
  clear_value done
  obtain ⟨saved, reloaded, reopened, read, same, _⟩ := kept.saved written
  exact ⟨opened, loaded, failed, written, saved, reloaded, reopened, read, same.trans left⟩

end Blacklist
end DeviceConnect
