import DeviceConnect.Proofs.Blacklist
import DeviceConnect.Proofs.CommandLine
import DeviceConnect.Proofs.Openings
import DeviceConnect.Rehearsal

/-! Command lines that follow one another in a workspace. What a sweep reports as put on the
blacklist is in the settings file from then on, and every later command line obeys that file. -/
namespace DeviceConnect

variable {σ ℓ φ : Type} {disk : Disk φ} {path : String} {files after : φ}

/-! ### What a file remembers -/

/-- The blacklist that is loaded from a file has this entry. -/
def Recalls (disk : Disk φ) (path entry : String) (files : φ) : Prop :=
  ∃ s b, Settings.load disk path files = .ok s ∧ Blacklist.load s = .ok b ∧ entry ∈ b.entries

theorem Recalls.listed {entry : String} (recalls : Recalls disk path entry files) {s : Settings}
    {b : Blacklist} (opened : Settings.load disk path files = .ok s)
    (loaded : Blacklist.load s = .ok b) : entry ∈ b.entries := by
  obtain ⟨s', b', opened', loaded', listed⟩ := recalls
  cases opened.symm.trans opened'
  cases loaded.symm.trans loaded'
  exact listed

/-- The document that is loaded from a file, if it can be, has no doubles. -/
def Tidy (disk : Disk φ) (path : String) (files : φ) : Prop :=
  ∀ s, Settings.load disk path files = .ok s → Json.Whole (.obj s.root)

theorem Tidy.of_same {path' : String} (tidy : Tidy disk path files)
    (same : disk.contents? path' after = disk.contents? path files) : Tidy disk path' after := by
  intro s loaded
  rcases Settings.load_of_same same loaded with none | before
  · exact none ▸ Json.whole_empty
  · exact tidy ⟨path, s.root⟩ before

theorem Recalls.of_same {path' entry : String} (recalls : Recalls disk path entry files)
    (same : disk.contents? path' after = disk.contents? path files) :
    Recalls disk path' entry after := by
  obtain ⟨s, b, opened, loaded, listed⟩ := recalls
  rcases Settings.load_of_same same.symm opened with none | now
  · obtain ⟨name, root⟩ := s
    cases none
    cases loaded
    cases listed
  · obtain ⟨b', loaded', entries⟩ := Blacklist.load_path loaded path'
    exact ⟨_, b', now, loaded', entries.symm ▸ listed⟩

/-- A list and its file: the file recalls every entry of the list. -/
structure Settled (disk : Disk φ) (path : String) (b : Blacklist) (files : φ) : Prop where
  bound : b.Bound path
  tidy : Tidy disk path files
  recalled : ∀ entry ∈ b.entries, Recalls disk path entry files

theorem settled_of_load {s : Settings} {b : Blacklist} (tidy : Tidy disk path files)
    (opened : Settings.load disk path files = .ok s) (loaded : Blacklist.load s = .ok b) :
    Settled disk path b files where
  bound := Blacklist.bound_of_load opened (tidy s opened) loaded
  tidy := tidy
  recalled _ listed := ⟨s, b, opened, loaded, listed⟩

theorem recalls_of_written {s : Settings} (restorable : s.Restorable) {entries : List String}
    (nodup : entries.Nodup)
    (holds : disk.contents? s.path after = some (s.withBlacklist entries).text.toByteArray) :
    Tidy disk s.path after ∧ ∀ entry ∈ entries, Recalls disk s.path entry after := by
  have written : (s.withBlacklist entries).Restorable := restorable.set_blacklist entries
  have opened : Settings.load disk s.path after = .ok (s.withBlacklist entries) :=
    written.load_of_contents? holds
  refine ⟨fun found loaded => ?_, fun entry listed => ?_⟩
  · rw [opened] at loaded
    cases loaded
    exact written.whole
  · exact ⟨_, _, opened, Blacklist.load_withBlacklist s nodup, listed⟩

/-- However a change that drops nothing goes, the file recalls what the list then holds. -/
theorem Settled.perform (saves : disk.SavesWhole path) {b : Blacklist}
    (settled : Settled disk path b files) (change : Blacklist.Change)
    (grows : b.entries ⊆ change.on b.entries) :
    Settled disk path (change.perform disk b files).2.1 (change.perform disk b files).2.2 := by
  have bound := change.perform_bound disk settled.bound files
  obtain ⟨nodup, s, stored, rfl, restorable⟩ := settled.bound
  have goes := change.perform_goes disk stored files
  generalize change.perform disk b files = done at bound goes
  cases goes with
  | unsaved _ => exact settled
  | saved written =>
      obtain ⟨tidy, recalled⟩ := recalls_of_written restorable (change.on_nodup nodup)
        (saves.saved _ _ _ rfl written)
      exact ⟨bound, tidy, recalled⟩
  | failed refused =>
      rcases saves.failed (s.withBlacklist _) _ _ _ rfl refused with same | whole
      · exact ⟨bound, settled.tidy.of_same same,
          fun entry listed => (settled.recalled entry listed).of_same same⟩
      · obtain ⟨tidy, recalled⟩ := recalls_of_written restorable (change.on_nodup nodup) whole
        exact ⟨bound, tidy, fun entry listed => recalled entry (grows listed)⟩

/-! ### Sweeps -/

namespace Coordinator

theorem quarantine_settled (saves : disk.SavesWhole path) {b : Blacklist}
    (settled : Settled disk path b files) (entry : String) :
    let done := quarantine disk entry b files
    Settled disk path done.2.1 done.2.2 ∧ (done.1 = true → entry ∈ done.2.1.entries) := by
  have after := settled.perform saves (.add entry) (Blacklist.prefix_insertNew b.entries entry).subset
  obtain ⟨s, stored, _⟩ := settled.bound.store
  have goes := (Blacklist.Change.add entry).perform_goes disk stored files
  change Settled disk path (b.add disk entry files).2.1 (b.add disk entry files).2.2 at after
  change Blacklist.Change.Goes disk (.add entry) b s files (b.add disk entry files) at goes
  unfold quarantine
  generalize b.add disk entry files = done at after goes
  cases goes with
  | unsaved same => exact ⟨after, nofun⟩
  | saved written => exact ⟨after, fun _ => Blacklist.self_mem_insertNew b.entries entry⟩
  | failed refused => exact ⟨after, nofun⟩

theorem sweep_settled (host : Host σ ℓ) (saves : disk.SavesWhole path) (quarantining : Bool)
    (found : List Address) {b : Blacklist} (w : σ) (settled : Settled disk path b files) :
    let run := sweep host disk quarantining found b w files
    Settled disk path run.2.1 run.2.2.2 ∧ b.entries ⊆ run.2.1.entries ∧
      ∀ r ∈ run.1, r.quarantined = true → r.address.format ∈ run.2.1.entries := by
  induction found generalizing b w files with
  | nil => exact ⟨settled, List.Subset.refl _, fun r none => absurd none List.not_mem_nil⟩
  | cons candidate rest ih =>
      unfold sweep
      split
      · exact ih w settled
      · dsimp only
        split
        · obtain ⟨now, listed⟩ := quarantine_settled saves settled candidate.format
          obtain ⟨last, grown, reported⟩ := ih (host.probe candidate w).2 now
          have kept := (prefix_quarantine disk candidate.format b files).subset
          refine ⟨last, fun entry early => grown (kept early), ?_⟩
          exact List.forall_mem_cons.mpr ⟨fun done => grown (listed done), reported⟩
        · obtain ⟨last, grown, reported⟩ := ih (host.probe candidate w).2 settled
          refine ⟨last, grown, List.forall_mem_cons.mpr ⟨?_, reported⟩⟩
          intro listed
          cases listed

end Coordinator

/-! ### Reports -/

theorem line_eq_quarantined {r : PingResult} {text : String}
    (same : r.line = text ++ "  no response (blacklisted)") :
    r.quarantined = true ∧ r.address.format = text := by
  obtain ⟨address, responded, quarantined⟩ := r
  have last := congrArg (fun line : String => line.toList.getLast?) same
  cases responded with
  | true => simp [PingResult.line] at last
  | false =>
      cases quarantined with
      | false => simp [PingResult.line] at last
      | true =>
          refine ⟨rfl, String.toList_inj.mp ?_⟩
          have letters := congrArg String.toList same
          simpa [PingResult.line] using letters

theorem quarantined_of_mem_sweepLines {results : List PingResult} {text : String}
    (shown : text ++ "  no response (blacklisted)" ∈ sweepLines results) :
    ∃ r ∈ results, r.quarantined = true ∧ r.address.format = text := by
  unfold sweepLines at shown
  split at shown
  · have last := congrArg (fun line : String => line.toList.getLast?) (List.mem_singleton.mp shown)
    simp at last
  · rcases List.mem_append.mp shown with result | count
    · obtain ⟨r, member, same⟩ := List.mem_map.mp result
      exact ⟨r, member, line_eq_quarantined same⟩
    · rcases List.mem_cons.mp count with blank | total
      · have last := congrArg (fun line : String => line.toList.getLast?) blank
        simp at last
      · have same := List.mem_singleton.mp total
        generalize toString (results.filter (·.responded)).length ++ " of " ++
          toString results.length = lead at same
        have last := congrArg (fun line : String => line.toList.getLast?) same
        simp at last

theorem listingLines_marked {b : Blacklist} {spec a : Address} {found : List Address} {n : Nat}
    (here : found[n]? = some a) (listed : a.format ∈ b.entries) :
    (listingLines b spec found)[n]? = some (a.format ++ "  [blacklisted]") := by
  cases found with
  | nil => cases here
  | cons first rest =>
      have mark : Mark.of b spec a = .blacklisted := by
        simp [Mark.of, Blacklist.contains, listed]
      rw [listingLines, List.getElem?_map, here, Option.map_some, mark]
      · rfl
      · exact List.cons_ne_nil first rest

theorem Coordinator.runList_marked (host : Host σ ℓ) (device : String)
    (c : Coordinator (Address × ℓ)) (w : σ) {filter : Option Transport} {found : List Address}
    (logged : Event.enumerated filter found ∈ (c.runList host.traced device (w, [])).2.2)
    {n : Nat} {a : Address} (here : found[n]? = some a) (listed : a.format ∈ c.blacklist.entries) :
    (c.runList host.traced device (w, [])).1.lines[n]? = some (a.format ++ "  [blacklisted]") := by
  revert logged
  unfold runList
  cases Address.parse device with
  | error e => exact nofun
  | ok spec =>
      intro logged
      cases List.mem_singleton.mp logged
      exact listingLines_marked here listed

/-! ### One command line -/

theorem Coordinator.perform_settled (host : Host σ ℓ) (saves : disk.SavesWhole path)
    (device : String) (config : ConnectConfig) {task : Task} (kept : task ≠ .clearBlacklist)
    (c : Coordinator ℓ) (w : σ) (settled : Settled disk path c.blacklist files) :
    let run := c.perform host disk device config task w files
    Tidy disk path run.2.2.2 ∧ (∀ entry ∈ c.blacklist.entries, Recalls disk path entry run.2.2.2) ∧
      ∀ transport text, task = .ping true transport →
        text ++ "  no response (blacklisted)" ∈ run.1.lines → Recalls disk path text run.2.2.2 := by
  cases task with
  | ping quarantining transport =>
      obtain ⟨last, grown, reported⟩ := sweep_settled host saves quarantining
        (host.enumerate transport w).1 (host.enumerate transport w).2 settled
      refine ⟨last.tidy, fun entry early => last.recalled entry (grown early), ?_⟩
      rintro _ text _ shown
      obtain ⟨r, member, quarantined, rfl⟩ := quarantined_of_mem_sweepLines shown
      exact last.recalled _ (reported r member quarantined)
  | clearBlacklist => exact absurd rfl kept
  | list => exact ⟨settled.tidy, settled.recalled, nofun⟩
  | status => exact ⟨settled.tidy, settled.recalled, nofun⟩
  | reset => exact ⟨settled.tidy, settled.recalled, nofun⟩
  | bootloader => exact ⟨settled.tidy, settled.recalled, nofun⟩
  | showBlacklist => exact ⟨settled.tidy, settled.recalled, nofun⟩

/-- A command line with the platform and the files that it meets. -/
structure Invocation (φ : Type) where
  σ : Type
  ℓ : Type
  host : Host σ ℓ
  world : σ
  line : CommandLine
  files : φ

namespace Invocation

/-- The settings file of its workspace. -/
def settingsPath (i : Invocation φ) : String := Settings.workspacePath i.line.workspace

def report (disk : Disk φ) (i : Invocation φ) : Report :=
  (i.line.run i.host disk i.world i.files).1

def filesLeft (disk : Disk φ) (i : Invocation φ) : φ := (i.line.run i.host disk i.world i.files).2.2

/-- All that it does to devices, in order. -/
def log (disk : Disk φ) (i : Invocation φ) : List Event :=
  (i.line.run i.host.traced disk (i.world, []) i.files).2.1.2

/-- It reports a device as put on the blacklist by its sweep. -/
def Quarantines (disk : Disk φ) (i : Invocation φ) (a : Address) : Prop :=
  ∃ transport, i.line.task = .ping true transport ∧
    a.format ++ "  no response (blacklisted)" ∈ (i.report disk).lines

/-- It opens no device of this text, for whatever purpose, and marks those that it lists. -/
structure Spares (disk : Disk φ) (i : Invocation φ) (a : Address) : Prop where
  unopened : ∀ b ∈ openings (i.log disk), b.format ≠ a.format
  marked : i.line.task = .list → ∀ filter found, Event.enumerated filter found ∈ i.log disk →
    ∀ (n : Nat) (b : Address), found[n]? = some b → b.format = a.format →
      (i.report disk).lines[n]? = some (b.format ++ "  [blacklisted]")

theorem recalls_after {i : Invocation φ} (saves : disk.SavesWhole i.settingsPath)
    (kept : i.line.task ≠ .clearBlacklist) (tidy : Tidy disk i.settingsPath i.files) :
    Tidy disk i.settingsPath (i.filesLeft disk) ∧
      (∀ entry, Recalls disk i.settingsPath entry i.files →
        Recalls disk i.settingsPath entry (i.filesLeft disk)) ∧
      ∀ a, i.Quarantines disk a → Recalls disk i.settingsPath a.format (i.filesLeft disk) := by
  unfold Quarantines report filesLeft CommandLine.run
  split
  · exact ⟨tidy, fun _ recalls => recalls, nofun⟩
  · next c config prepared =>
      obtain ⟨s, b, opened, loaded, rfl⟩ := CommandLine.eq_start_of_prepare prepared
      have settled := settled_of_load tidy opened loaded
      obtain ⟨last, recalled, reported⟩ := Coordinator.perform_settled i.host saves i.line.device
        config kept (.start b config.options) i.world settled
      refine ⟨last, fun entry recalls => recalled entry (recalls.listed opened loaded), ?_⟩
      rintro a ⟨transport, sweeping, shown⟩
      exact reported transport a.format sweeping shown

theorem spares_of_recalls {i : Invocation φ} {a : Address}
    (recalls : Recalls disk i.settingsPath a.format i.files) : i.Spares disk a where
  unopened := CommandLine.run_shuns i.host disk i.line (i.world, []) i.files nofun
    fun _ _ opened loaded => recalls.listed opened loaded
  marked listing filter found logged n b here same := by
    have traced := CommandLine.run_traced i.host disk i.line i.world [] i.files
    rw [report, traced]
    revert logged
    unfold log CommandLine.run
    split
    · exact nofun
    · next c config prepared =>
        obtain ⟨s, list, opened, loaded, rfl⟩ := CommandLine.eq_start_of_prepare prepared
        rw [listing]
        have silent (w : i.σ × List Event) :
            ((Coordinator.start list config.options).disconnect i.host.traced w).2.2 = w.2 :=
          Session.apply_traced i.host .closed .start w.1 w.2
        simp only [Coordinator.perform, silent]
        intro logged
        have remembered : b.format ∈ list.entries := same ▸ recalls.listed opened loaded
        exact Coordinator.runList_marked i.host i.line.device _ i.world logged here remembered

end Invocation

/-! ### Command lines that follow one another -/

/-- Command lines that leave the blacklist standing, each with the settings file as the one before
left it. The first finds no doubles there. -/
structure Undisturbed (disk : Disk φ) (runs : List (Invocation φ)) : Prop where
  kept : ∀ i ∈ runs, i.line.task ≠ .clearBlacklist
  untouched : runs.IsChain fun i j =>
    disk.contents? j.settingsPath j.files = disk.contents? i.settingsPath (i.filesLeft disk)
  tidy : ∀ i ∈ runs.head?, Tidy disk i.settingsPath i.files

theorem Undisturbed.tail {i : Invocation φ} {later : List (Invocation φ)}
    (saves : ∀ j ∈ i :: later, disk.SavesWhole j.settingsPath)
    (undisturbed : Undisturbed disk (i :: later)) : Undisturbed disk later := by
  obtain ⟨kept, untouched, tidy⟩ := undisturbed
  obtain ⟨here, others⟩ := List.forall_mem_cons.mp kept
  have left := (Invocation.recalls_after (saves i List.mem_cons_self) here (tidy i rfl)).1
  cases later with
  | nil => exact ⟨nofun, .nil, nofun⟩
  | cons j rest =>
      obtain ⟨between, behind⟩ := List.isChain_cons_cons.mp untouched
      refine ⟨others, behind, ?_⟩
      rintro _ ⟨⟩
      exact left.of_same between

theorem Undisturbed.recalls_later {i : Invocation φ} {later : List (Invocation φ)}
    (saves : ∀ j ∈ i :: later, disk.SavesWhole j.settingsPath)
    (undisturbed : Undisturbed disk (i :: later)) {entry : String}
    (recalls : Recalls disk i.settingsPath entry (i.filesLeft disk)) :
    ∀ j ∈ later, Recalls disk j.settingsPath entry j.files := by
  induction later generalizing i with
  | nil => exact nofun
  | cons j rest ih =>
      have found := recalls.of_same (List.isChain_cons_cons.mp undisturbed.untouched).1
      have following := undisturbed.tail saves
      have others : ∀ k ∈ j :: rest, disk.SavesWhole k.settingsPath := fun k member =>
        saves k (List.mem_cons_of_mem i member)
      have left := (Invocation.recalls_after (others j List.mem_cons_self)
        (following.kept j List.mem_cons_self) (following.tidy j rfl)).2.1 entry found
      exact List.forall_mem_cons.mpr ⟨found, ih others following left⟩

/-- A device that a sweep reports as put on the blacklist is spared by every later command line;
what is said of actions is said of the run that is reported, with its log written. -/
theorem quarantined_devices_are_spared {runs : List (Invocation φ)}
    (saves : ∀ i ∈ runs, disk.SavesWhole i.settingsPath) (undisturbed : Undisturbed disk runs) :
    (∀ i ∈ runs, i.line.run i.host disk i.world i.files =
      let run := i.line.run i.host.traced disk (i.world, []) i.files
      (run.1, run.2.1.1, run.2.2)) ∧
      runs.Pairwise fun i j => ∀ a, i.Quarantines disk a → j.Spares disk a := by
  refine ⟨fun i _ => i.line.run_traced i.host disk i.world [] i.files, ?_⟩
  induction runs with
  | nil => exact List.Pairwise.nil
  | cons i later ih =>
      have others : ∀ j ∈ later, disk.SavesWhole j.settingsPath := fun j member =>
        saves j (List.mem_cons_of_mem i member)
      have rest := ih others (undisturbed.tail saves)
      refine List.pairwise_cons.mpr ⟨fun j member a quarantines => ?_, rest⟩
      have reported := (Invocation.recalls_after (saves i List.mem_cons_self)
        (undisturbed.kept i List.mem_cons_self) (undisturbed.tidy i rfl)).2.2 a quarantines
      exact Invocation.spares_of_recalls (undisturbed.recalls_later saves reported j member)

/-- A port that stays silent in a sweep, and the list that follows it. -/
theorem silent_device_is_spared_by_the_next_list :
    let a : Address := .serial (some "/dev/ttyACM0")
    let devices : Rehearsal := ⟨[[a]], false, [(a.format, [.fails .timeout])]⟩
    let line (task : Task) : CommandLine := ⟨"any", none, none, false, none, ".", 0, task⟩
    let i : Invocation FileTree :=
      ⟨Rehearsal, RehearsedLink, Rehearsal.host, devices, line (.ping true none), .empty⟩
    let j : Invocation FileTree :=
      ⟨Rehearsal, RehearsedLink, Rehearsal.host, devices, line .list, i.filesLeft treeDisk⟩
    (∀ k ∈ [i, j], treeDisk.SavesWhole k.settingsPath) ∧ Undisturbed treeDisk [i, j] ∧
      i.Quarantines treeDisk a ∧ j.Spares treeDisk a ∧
      (j.report treeDisk).lines = ["serial@/dev/ttyACM0  [blacklisted]"] := by
  intro a devices line i j
  have saves : ∀ k ∈ [i, j], treeDisk.SavesWhole k.settingsPath := by
    have plain : ".." ∉ Path.parts (Settings.workspacePath ".") := by decide +kernel
    refine List.forall_mem_cons.mpr ⟨?_, List.forall_mem_singleton.mpr ?_⟩
    · exact treeDisk_savesWhole plain
    · exact treeDisk_savesWhole plain
  have undisturbed : Undisturbed treeDisk [i, j] := by
    refine ⟨by simp [i, j, line], List.isChain_cons_cons.mpr ⟨rfl, .singleton j⟩, ?_⟩
    rintro _ ⟨⟩ s loaded
    have missing : Settings.load treeDisk (Settings.workspacePath ".") .empty =
        .ok ⟨Settings.workspacePath ".", []⟩ := by rfl
    cases missing.symm.trans loaded
    exact Json.whole_empty
  have quarantines : i.Quarantines treeDisk a := ⟨none, rfl, by decide +kernel⟩
  have shown : (j.report treeDisk).lines = ["serial@/dev/ttyACM0  [blacklisted]"] := by
    decide +kernel
  have spared := List.pairwise_pair.mp (quarantined_devices_are_spared saves undisturbed).2
  exact ⟨saves, undisturbed, quarantines, spared a quarantines, shown⟩

end DeviceConnect
