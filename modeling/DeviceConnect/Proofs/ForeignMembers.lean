import DeviceConnect.Proofs.Blacklist

/-! What others keep in the settings. The whole document is written anew whenever a blacklist changes;
of its members only the blacklist differs from what was loaded, whatever failed before. -/
namespace DeviceConnect

variable {φ : Type} {disk : Disk φ}

/-! ### Documents -/

namespace Settings

/-- The members that are not the blacklist. -/
def foreign (s : Settings) : Json.Members := s.root.others blacklistKey

/-- The documents are of one file and differ at most in their blacklists. -/
structure Alike (s s' : Settings) : Prop where
  path : s.path = s'.path
  foreign : s.foreign = s'.foreign

theorem Alike.refl (s : Settings) : Alike s s := ⟨rfl, rfl⟩

theorem Alike.trans {s s' s'' : Settings} (first : Alike s s') (second : Alike s' s'') :
    Alike s s'' := ⟨first.path.trans second.path, first.foreign.trans second.foreign⟩

theorem withBlacklist_alike (s : Settings) (entries : List String) :
    Alike (s.withBlacklist entries) s :=
  ⟨rfl, Json.Members.others_insert s.root blacklistKey _⟩

variable {s s' : Settings} {key : String}

theorem Alike.find?_eq (alike : Alike s s') (other : key ≠ blacklistKey) :
    s.root.find? key = s'.root.find? key := by
  rw [← Json.Members.find?_others other s.root, ← Json.Members.find?_others other s'.root]
  exact congrArg (Json.Members.find? · key) alike.foreign

theorem Alike.get_eq (alike : Alike s s') {α : Type} (decoder : Json.Decoder α)
    (other : key ≠ blacklistKey) : s.get decoder key = s'.get decoder key := by
  unfold get
  rw [alike.find?_eq other, alike.path]

theorem Alike.connectDefaults_eq (alike : Alike s s') :
    s.connectDefaults = s'.connectDefaults := by
  unfold connectDefaults
  rw [alike.get_eq ConnectDefaults.ofJson (by decide : connectKey ≠ blacklistKey)]

end Settings

/-! ### Changes -/

namespace Blacklist

/-- The list is kept in a document that has the other members of `origin`. -/
def KeptWith (origin : Settings) (b : Blacklist) : Prop :=
  ∃ s, b.store = some s ∧ s.Alike origin

theorem keptWith_of_load {store : Settings} {b : Blacklist} (loaded : load store = .ok b) :
    b.KeptWith store := by
  unfold load at loaded
  split at loaded
  · cases loaded
  · cases loaded
    exact ⟨store, rfl, .refl store⟩

/-- Also where it was not saved, a change has touched the document nowhere else. -/
theorem KeptWith.perform {origin : Settings} {b : Blacklist} (kept : b.KeptWith origin)
    (disk : Disk φ) (change : Change) (files : φ) :
    (change.perform disk b files).2.1.KeptWith origin := by
  obtain ⟨s, stored, alike⟩ := kept
  have goes := change.perform_goes disk stored files
  have set : (s.withBlacklist (change.on b.entries)).Alike origin :=
    (s.withBlacklist_alike _).trans alike
  generalize change.perform disk b files = done at goes
  cases goes with
  | unsaved _ => exact ⟨s, stored, alike⟩
  | saved _ => exact ⟨_, rfl, set⟩
  | failed _ => exact ⟨_, rfl, set⟩

theorem KeptWith.run {origin : Settings} {b : Blacklist} (kept : b.KeptWith origin) (disk : Disk φ)
    (steps : List (Change × φ)) : (b.run disk steps).2.KeptWith origin := by
  induction steps generalizing b with
  | nil => exact kept
  | cons step later ih => exact ih (kept.perform disk step.1 step.2)

theorem Bound.reopens (readsBack : disk.ReadsBack) {path : String} {b left : Blacklist}
    (bound : b.Bound path) {change : Change} {files after : φ}
    (saved : change.perform disk b files = (.ok true, left, after)) :
    ∃ s, left.store = some s ∧ Settings.load disk path after = .ok s := by
  obtain ⟨_, s, stored, rfl, restorable⟩ := bound
  have goes := change.perform_goes disk stored files
  rw [saved] at goes
  cases goes with
  | saved written =>
      refine ⟨_, rfl, ?_⟩
      exact (restorable.set_blacklist _).load_of_contents? (Settings.contents?_of_save readsBack written)

/-- After any changes, some of them not saved, one that is saved leaves a file with every member but
the blacklist as it was loaded, and with no more of them; so all that is read of it but the blacklist
is what was read before. -/
theorem saved_change_keeps_foreign_members (readsBack : disk.ReadsBack) {path : String} {files : φ}
    {store : Settings} {b : Blacklist} (opened : Settings.load disk path files = .ok store)
    (whole : Json.Whole (.obj store.root)) (loaded : load store = .ok b)
    (steps : List (Change × φ)) {change : Change} {met after : φ} {left : Blacklist}
    (saved : change.perform disk (b.run disk steps).2 met = (.ok true, left, after)) :
    ∃ reopened, Settings.load disk path after = .ok reopened ∧
      (∀ key, key ≠ Settings.blacklistKey → reopened.root.find? key = store.root.find? key) ∧
      reopened.foreign = store.foreign ∧ reopened.connectDefaults = store.connectDefaults ∧
      ∀ {α : Type} (decoder : Json.Decoder α) key, key ≠ Settings.blacklistKey →
        reopened.get decoder key = store.get decoder key := by
  have bound := run_bound disk (bound_of_load opened whole loaded) steps
  have kept := ((keptWith_of_load loaded).run disk steps).perform disk change met
  rw [saved] at kept
  obtain ⟨reopened, held, reads⟩ := bound.reopens readsBack saved
  obtain ⟨s, stored, alike⟩ := kept
  cases held.symm.trans stored
  refine ⟨reopened, reads, fun key other => ?_, alike.foreign, ?_, fun decoder key other => ?_⟩
  · exact alike.find?_eq other
  · exact alike.connectDefaults_eq
  · exact alike.get_eq decoder other

/-- Members on both sides of the blacklist, one that is refused where it is read; a replacement that
is not saved, and an addition that is. -/
theorem failed_replacement_spares_other_members :
    let store : Settings := ⟨"./.tether/settings.json",
      [("\"\\\n", .str "\x00"), ("blacklist", .arr [.str "a"]),
        ("connect", .obj [("retries", .int (-1))]), ("é", .arr [.null, .int Json.minInt])]⟩
    let files : FileTree := ⟨[([".tether"], .directory),
      ([".tether", "settings.json"], .file store.text.toByteArray)]⟩
    let b : Blacklist := ⟨["a"], some store⟩
    let steps : List (Change × FileTree) := [(.replace ["b"], ⟨[([".tether"], .file .empty)]⟩)]
    Settings.load treeDisk store.path files = .ok store ∧ Json.Whole (.obj store.root) ∧
      load store = .ok b ∧ (b.run treeDisk steps).1 = [] ∧
      ∃ left after reopened,
        (Change.add "c").perform treeDisk (b.run treeDisk steps).2 .empty = (.ok true, left, after) ∧
        Settings.load treeDisk store.path after = .ok reopened ∧ reopened.foreign = store.foreign ∧
        reopened.connectDefaults = .error (.value store.path "connect" (.outOfRange (-1) "u32")) := by
  intro store files b steps
  have read (bytes : ByteArray) : treeDisk.read "./.tether/settings.json"
      ⟨[([".tether"], .directory), ([".tether", "settings.json"], .file bytes)]⟩ = .ok bytes := rfl
  have fits : Json.Fits Json.maxDepth (.obj store.root) := by
    refine .obj (by decide +kernel) ?_
    simp only [List.forall_mem_cons, store]
    refine ⟨.str _, .arr ?_, .obj (by decide) ?_, .arr ?_, nofun⟩
    · exact List.forall_mem_singleton.mpr (.str "a")
    · exact List.forall_mem_singleton.mpr (.int (by decide) (by decide))
    · exact List.forall_mem_cons.mpr
        ⟨.null, List.forall_mem_singleton.mpr (.int (by decide) (by decide))⟩
  have whole : Json.Whole (.obj store.root) := by
    refine .obj ?_
    simp only [List.forall_mem_cons, store]
    refine ⟨.str _, .arr ?_, .obj ?_, .arr ?_, nofun⟩
    · exact List.forall_mem_singleton.mpr (.str "a")
    · exact List.forall_mem_singleton.mpr (.int _)
    · exact List.forall_mem_cons.mpr ⟨.null, List.forall_mem_singleton.mpr (.int _)⟩
  have opened : Settings.load treeDisk store.path files = .ok store :=
    Settings.Restorable.load_of_contents? ⟨fits, whole⟩ (Disk.contents?_eq_some.mpr (read _))
  have loaded : load store = .ok b := rfl
  have failed : (b.run treeDisk steps).1 = [] := List.isEmpty_iff.mp (by decide +kernel)
  have refused : store.connectDefaults =
      .error (.value store.path "connect" (.outOfRange (-1) "u32")) := by decide +kernel
  have parts (done : Except SettingsError Bool × Blacklist × FileTree) (ok : done.1 = .ok true) :
      ∃ left after, done = (.ok true, left, after) := ⟨_, _, Prod.ext ok rfl⟩
  obtain ⟨left, after, saved⟩ := parts
    ((Change.add "c").perform treeDisk (b.run treeDisk steps).2 .empty) (by decide +kernel)
  obtain ⟨reopened, reads, _, foreign, defaults, _⟩ :=
    saved_change_keeps_foreign_members treeDisk_readsBack opened whole loaded steps saved
  exact ⟨opened, whole, loaded, failed, left, after, reopened, saved, reads, foreign,
    defaults.trans refused⟩

end Blacklist
end DeviceConnect
