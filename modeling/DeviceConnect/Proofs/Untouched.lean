import DeviceConnect.Bench.Host
import DeviceConnect.Disk.Tree
import DeviceConnect.Proofs.Sweep

/-! What a command line leaves alone. Files change only where the blacklist is cleared, or where a
sweep is to put silent devices on it and has met one; and where the settings cannot be used, nothing
is done at all. -/
namespace DeviceConnect

variable {σ ℓ φ : Type} {disk : Disk φ} {path : String} {files : φ}

/-! ### Silent devices -/

/-- The log shows a device that was probed and did not answer as it should. -/
def Silent (log : List Event) (device : Address) : Prop :=
  (∃ e, .opened device (some e) ∈ log) ∨ ∃ answer, .requested device .ping answer ∈ log ∧
    answer ≠ .ok .pong

theorem Silent.mono {log more : List Event} (sub : log ⊆ more) {device : Address}
    (silent : Silent log device) : Silent more device := by
  rcases silent with ⟨e, shut⟩ | ⟨answer, asked, wrong⟩
  · exact .inl ⟨e, sub shut⟩
  · exact .inr ⟨answer, sub asked, wrong⟩

theorem Turn.silent {t : Turn φ} (unanswered : t.greeting.isPong = false) :
    Silent t.events t.candidate := by
  obtain ⟨candidate, entries, files, greeting⟩ := t
  cases greeting with
  | unopened e => exact .inl ⟨e, List.mem_cons_self⟩
  | answered answer =>
      refine .inr ⟨answer, List.mem_cons_of_mem _ List.mem_cons_self, ?_⟩
      rintro rfl
      cases unanswered

theorem Turns.files_eq {store : Option Settings} {quarantining : Bool} {entries last : List String}
    {after : φ} {found : List Address} {turns : List (Turn φ)}
    (taken : Turns disk store quarantining entries files found turns last after)
    (spared : ∀ t ∈ turns, t.condemns quarantining = false) : after = files := by
  induction taken with
  | done => rfl
  | passed _ _ ih => exact ih spared
  | @taken t _ _ _ _ _ _ ih =>
      obtain ⟨here, others⟩ := List.forall_mem_cons.mp spared
      have kept : t.filesLeft disk store quarantining = t.files := by
        rw [Turn.filesLeft, here]
        rfl
      exact (ih others).trans kept

namespace Coordinator

theorem sweep_leaves_files (host : Host σ ℓ) (disk : Disk φ) (quarantining : Bool)
    (found : List Address) (b : Blacklist) (w : σ) (log : List Event) (files : φ) :
    let run := sweep host.traced disk quarantining found b (w, log) files
    run.2.2.2 = files ∨ quarantining = true ∧ ∃ device ∈ found, Silent run.2.2.1.2 device := by
  intro run
  obtain ⟨turns, taken, _, written⟩ :=
    sweep_traced host disk quarantining found (rfl : b.SavesLike b.store) w log files
  by_cases spared : ∀ t ∈ turns, t.condemns quarantining = false
  · exact .inl (taken.files_eq spared)
  · simp only [not_forall, Bool.not_eq_false] at spared
    obtain ⟨t, turn, condemned⟩ := spared
    obtain ⟨unanswered, quarantines⟩ := (Bool.and_eq_true _ _).mp condemned
    refine .inr ⟨quarantines, t.candidate, ?_, ?_⟩
    · exact taken.candidates_sublist.subset (List.mem_map_of_mem turn)
    · refine (Turn.silent ((Bool.not_eq_true' _).mp unanswered)).mono ?_
      intro event shown
      rw [written]
      exact List.mem_append_right log (List.mem_flatMap.mpr ⟨t, turn, shown⟩)

theorem perform_leaves_files (host : Host σ ℓ) (disk : Disk φ) (device : String)
    (config : ConnectConfig) (task : Task) (c : Coordinator (Address × ℓ)) (w : σ)
    (log : List Event) (files : φ) :
    let run := c.perform host.traced disk device config task (w, log) files
    run.2.2.2 = files ∨ task = .clearBlacklist ∨
      ∃ transport, task = .ping true transport ∧ ∃ a, Silent run.2.2.1.2 a := by
  cases task with
  | list => exact .inl rfl
  | ping quarantining transport =>
      rcases sweep_leaves_files host disk quarantining (host.enumerate transport w).1 c.blacklist
        (host.enumerate transport w).2 (log ++ [.enumerated transport (host.enumerate transport w).1])
        files with same | ⟨rfl, a, _, silent⟩
      · exact .inl same
      · exact .inr (.inr ⟨transport, rfl, a, silent⟩)
  | status => exact .inl rfl
  | reset => exact .inl rfl
  | bootloader => exact .inl rfl
  | showBlacklist => exact .inl rfl
  | clearBlacklist => exact .inr (.inl rfl)

theorem log_subset_disconnect (host : Host σ ℓ) (c : Coordinator (Address × ℓ))
    (w : σ × List Event) : w.2 ⊆ (c.disconnect host.traced w).2.2 := by
  obtain ⟨dropped, logged⟩ := Session.close_traced host c.session w.1 w.2
  have whole : (c.disconnect host.traced w).2.2 = w.2 ++ dropped.toList.map .closed := logged
  rw [whole]
  exact List.subset_append_left _ _

end Coordinator

/-! ### Settings that cannot be used -/

/-- A file that stands for an empty document: it is missing, or there is nothing to be seen in it. -/
inductive Vacant (disk : Disk φ) (path : String) (files : φ) : Prop
  | missing : disk.read path files = .error .notFound → Vacant disk path files
  | blank {text : String} : disk.read path files = .ok text.toByteArray →
      Text.isBlank text = true → Vacant disk path files

/-- A file holds a text that is not blank. -/
structure Disk.Holds (disk : Disk φ) (path : String) (files : φ) (text : String) : Prop where
  read : disk.read path files = .ok text.toByteArray
  visible : Text.isBlank text = false

theorem Disk.Holds.load_eq {text : String} (holds : disk.Holds path files text) :
    Settings.load disk path files = match Json.parse text with
      | .error e => .error (.parse path e)
      | .ok (.obj root) => .ok ⟨path, root⟩
      | .ok _ => .error (.notAnObject path) := by
  simp only [Settings.load, holds.read, Settings.ofBytes, Settings.fromUTF8?_toByteArray,
    holds.visible]
  rfl

/-- Why the settings in a file cannot be used. -/
inductive Unusable (disk : Disk φ) (path : String) (files : φ) : Prop
  | unreadable {e : FileError} : disk.read path files = .error e → e ≠ .notFound →
      Unusable disk path files
  | notText {bytes : ByteArray} : disk.read path files = .ok bytes →
      String.fromUTF8? bytes = none → Unusable disk path files
  | malformed {text : String} {e : Json.SyntaxError} : disk.Holds path files text →
      Json.parse text = .error e → Unusable disk path files
  | notAnObject {text : String} {json : Json} : disk.Holds path files text →
      Json.parse text = .ok json → (∀ root, json ≠ .obj root) → Unusable disk path files
  | badConnect {text : String} {root : Json.Members} {json : Json} {fault : Json.TypeFault} :
      disk.Holds path files text → Json.parse text = .ok (.obj root) →
      root.find? Settings.connectKey = some json → ConnectDefaults.ofJson json = .error fault →
      Unusable disk path files
  | badBlacklist {text : String} {root : Json.Members} {json : Json} {fault : Json.TypeFault} :
      disk.Holds path files text → Json.parse text = .ok (.obj root) →
      root.find? Settings.blacklistKey = some json → json.asStrings = .error fault →
      Unusable disk path files

namespace Settings

theorem load_of_error {e : FileError} (failed : disk.read path files = .error e)
    (present : e ≠ .notFound) : load disk path files = .error (.io path e) := by
  unfold load
  rw [failed]
  cases e with
  | notFound => exact absurd rfl present
  | alreadyExists | notADirectory | isADirectory | nameTooLong | nulInName | notText => rfl

theorem load_of_notText {bytes : ByteArray} (there : disk.read path files = .ok bytes)
    (garbled : String.fromUTF8? bytes = none) :
    load disk path files = .error (.io path .notText) := by
  simp only [load, there, ofBytes, garbled]

theorem load_of_vacant (vacant : Vacant disk path files) : load disk path files = .ok ⟨path, []⟩ := by
  unfold load
  cases vacant with
  | missing failed => rw [failed]
  | blank there blank =>
      rw [there]
      dsimp only
      rw [ofBytes, fromUTF8?_toByteArray]
      exact if_pos blank

/-- A file is vacant, or is refused for what is no text, or holds a text to be read. -/
theorem load_cases (disk : Disk φ) (path : String) (files : φ) :
    Vacant disk path files ∨ (∃ e, load disk path files = .error e ∧ Unusable disk path files) ∨
      ∃ text, disk.Holds path files text := by
  cases read : disk.read path files with
  | error e =>
      by_cases missing : e = .notFound
      · exact .inl (.missing (missing ▸ read))
      · exact .inr (.inl ⟨_, load_of_error read missing, .unreadable read missing⟩)
  | ok bytes =>
      cases valid : String.fromUTF8? bytes with
      | none => exact .inr (.inl ⟨_, load_of_notText read valid, .notText read valid⟩)
      | some text =>
          rw [← Text.toByteArray_of_fromUTF8? valid] at read
          cases blank : Text.isBlank text with
          | true => exact .inl (.blank read blank)
          | false => exact .inr (.inr ⟨text, read, blank⟩)

theorem unusable_of_load {e : SettingsError} (refused : load disk path files = .error e) :
    Unusable disk path files := by
  rcases load_cases disk path files with vacant | ⟨_, _, unusable⟩ | ⟨text, holds⟩
  · cases (load_of_vacant vacant).symm.trans refused
  · exact unusable
  · rw [holds.load_eq] at refused
    split at refused
    · next parsed => exact .malformed holds parsed
    · cases refused
    · next other parsed => exact .notAnObject holds parsed other

theorem holds_of_load {s : Settings} (opened : load disk path files = .ok s) :
    s.root = [] ∨ ∃ text, disk.Holds path files text ∧ Json.parse text = .ok (.obj s.root) := by
  rcases load_cases disk path files with vacant | ⟨_, refused, _⟩ | ⟨text, holds⟩
  · cases (load_of_vacant vacant).symm.trans opened
    exact .inl rfl
  · cases refused.symm.trans opened
  · rw [holds.load_eq] at opened
    split at opened
    · cases opened
    · next parsed =>
        cases opened
        exact .inr ⟨text, holds, parsed⟩
    · cases opened

theorem get_error {α : Type} {s : Settings} {decoder : Json.Decoder α} {key : String}
    {e : SettingsError} (refused : s.get decoder key = .error e) :
    ∃ json fault, s.root.find? key = some json ∧ decoder json = .error fault := by
  unfold get at refused
  split at refused
  · cases refused
  · next json stored =>
      split at refused
      · cases refused
      · next fault wrong => exact ⟨json, fault, stored, wrong⟩

theorem unusable_of_get {α : Type} {s : Settings} {decoder : Json.Decoder α} {key : String}
    {e : SettingsError} (opened : load disk path files = .ok s)
    (refused : s.get decoder key = .error e)
    (bad : ∀ {text json fault}, disk.Holds path files text → Json.parse text = .ok (.obj s.root) →
      s.root.find? key = some json → decoder json = .error fault → Unusable disk path files) :
    Unusable disk path files := by
  obtain ⟨json, fault, stored, wrong⟩ := get_error refused
  rcases holds_of_load opened with empty | ⟨text, holds, parsed⟩
  · rw [empty] at stored
    cases stored
  · exact bad holds parsed stored wrong

end Settings

namespace CommandLine

theorem prepare_of_vacant {line : CommandLine}
    (vacant : Vacant disk (Settings.workspacePath line.workspace) files) :
    (prepare disk line files : Except TaskFailure (Coordinator ℓ × ConnectConfig)) =
      let config := line.connectConfig .builtIn
      .ok (.start ⟨[], some ⟨Settings.workspacePath line.workspace, []⟩⟩ config.options, config) := by
  rw [prepare, Settings.forWorkspace, Settings.load_of_vacant vacant]
  rfl

theorem prepare_of_unusable {line : CommandLine}
    (unusable : Unusable disk (Settings.workspacePath line.workspace) files) :
    ∃ failure, (prepare disk line files : Except TaskFailure (Coordinator ℓ × ConnectConfig)) =
      .error failure := by
  unfold prepare Settings.forWorkspace
  cases unusable with
  | unreadable failed present =>
      rw [Settings.load_of_error failed present]
      exact ⟨_, rfl⟩
  | notText there garbled =>
      rw [Settings.load_of_notText there garbled]
      exact ⟨_, rfl⟩
  | malformed holds refused =>
      rw [holds.load_eq, refused]
      exact ⟨_, rfl⟩
  | @notAnObject text json holds parsed other =>
      rw [holds.load_eq, parsed]
      cases json with
      | obj root => exact absurd rfl (other root)
      | null | bool | int | double | str | arr => exact ⟨_, rfl⟩
  | badConnect holds parsed stored fault =>
      rw [holds.load_eq, parsed]
      simp only [Settings.connectDefaults, Settings.get, stored, fault]
      exact ⟨_, rfl⟩
  | @badBlacklist text root json fault holds parsed stored wrong =>
      rw [holds.load_eq, parsed]
      dsimp only
      cases Settings.connectDefaults ⟨Settings.workspacePath line.workspace, root⟩ with
      | error e => exact ⟨_, rfl⟩
      | ok defaults =>
          simp only [Blacklist.load, Settings.get, stored, wrong]
          exact ⟨_, rfl⟩

/-- Only settings that cannot be used stop a command line before its task. -/
theorem unusable_of_prepare {line : CommandLine} {failure : TaskFailure}
    (refused : (prepare disk line files : Except TaskFailure (Coordinator ℓ × ConnectConfig)) =
      .error failure) : Unusable disk (Settings.workspacePath line.workspace) files := by
  unfold prepare at refused
  split at refused
  · next unread => exact Settings.unusable_of_load unread
  · next s opened =>
      split at refused
      · next wrong =>
          cases read : s.get ConnectDefaults.ofJson Settings.connectKey with
          | error e => exact Settings.unusable_of_get opened read .badConnect
          | ok stored =>
              rw [Settings.connectDefaults, read] at wrong
              cases wrong
      · split at refused
        · next wrong =>
            cases read : s.get Json.asStrings Settings.blacklistKey with
            | error e => exact Settings.unusable_of_get opened read .badBlacklist
            | ok stored =>
                simp only [Blacklist.load, read] at wrong
                cases wrong
        · cases refused

end CommandLine

/-- A command line changes no file but to clear the blacklist, or to put devices on it that a sweep
has found silent. If its settings cannot be used, it fails, and has asked nothing of any device,
printed nothing and changed no file; else it goes on to its task, and does so on built-in settings and
an empty blacklist where its file is missing or blank. -/
theorem runs_leave_files (host : Host σ ℓ) (disk : Disk φ) (line : CommandLine) (w : σ) (files : φ) :
    let path := Settings.workspacePath line.workspace
    let prepared : Except TaskFailure (Coordinator (Address × ℓ) × ConnectConfig) :=
      CommandLine.prepare disk line files
    let run := line.run host.traced disk (w, []) files
    line.run host disk w files = (run.1, run.2.1.1, run.2.2) ∧
      (run.2.2 = files ∨ line.task = .clearBlacklist ∨
        ∃ transport, line.task = .ping true transport ∧ ∃ a, Silent run.2.1.2 a) ∧
      (Unusable disk path files → ∃ failure, run = (.failed [] failure, (w, []), files)) ∧
      (¬Unusable disk path files → ∃ start, prepared = .ok start) ∧
      (Vacant disk path files → prepared =
        let config := line.connectConfig .builtIn
        .ok (.start ⟨[], some ⟨path, []⟩⟩ config.options, config)) := by
  intro path prepared run
  refine ⟨line.run_traced host disk w [] files, ?_, ?_, ?_, ?_⟩
  · unfold run CommandLine.run
    cases CommandLine.prepare disk line files with
    | error failure => exact .inl rfl
    | ok prepared =>
        obtain ⟨c, config⟩ := prepared
        rcases c.perform_leaves_files host disk line.device config line.task w [] files with
          same | cleared | ⟨transport, task, a, silent⟩
        · exact .inl same
        · exact .inr (.inl cleared)
        · exact .inr (.inr ⟨transport, task, a,
            silent.mono (Coordinator.log_subset_disconnect host _ _)⟩)
  · intro unusable
    obtain ⟨failure, refused⟩ : ∃ failure, prepared = .error failure :=
      CommandLine.prepare_of_unusable unusable
    refine ⟨failure, ?_⟩
    unfold prepared at refused
    unfold run CommandLine.run
    rw [refused]
  · intro usable
    cases went : prepared with
    | error failure => exact absurd (CommandLine.unusable_of_prepare went) usable
    | ok start => exact ⟨start, rfl⟩
  · intro vacant
    exact CommandLine.prepare_of_vacant vacant

/-- A number of retries that cannot be read stops a sweep before it has asked the device it would put
on the blacklist. -/
theorem negative_retries_stop_a_sweep :
    let store : Settings := ⟨"./.tether/settings.json",
      [("connect", .obj [("retries", .int (-1))])]⟩
    let files : FileTree := ⟨[([".tether"], .directory),
      ([".tether", "settings.json"], .file store.text.toByteArray)]⟩
    let line : CommandLine := ⟨"", none, none, false, none, ".", 0, .ping true none⟩
    let b : Bench := { Bench.empty with serial := [⟨"COM1", [], [], [], [], []⟩] }
    Unusable treeDisk (Settings.workspacePath line.workspace) files ∧
      ∃ failure, line.run (Bench.host 2000).traced treeDisk (b, []) files =
        (.failed [] failure, (b, []), files) := by
  intro store files line b
  have read (bytes : ByteArray) : treeDisk.read "./.tether/settings.json"
      ⟨[([".tether"], .directory), ([".tether", "settings.json"], .file bytes)]⟩ = .ok bytes := rfl
  have fits : Json.Fits Json.maxDepth (.obj store.root) :=
    .obj (by decide) (List.forall_mem_singleton.mpr
      (.obj (by decide) (List.forall_mem_singleton.mpr (.int (by decide) (by decide)))))
  have whole : Json.Whole (.obj store.root) :=
    .obj (List.forall_mem_singleton.mpr (.obj (List.forall_mem_singleton.mpr (.int _))))
  have parsed : Json.parse store.text = .ok (.obj store.root) := Json.parse_pretty fits whole
  have located : Settings.workspacePath line.workspace = store.path := by decide
  have unusable : Unusable treeDisk (Settings.workspacePath line.workspace) files := by
    rw [located]
    exact .badConnect ⟨read _, store.text_not_blank⟩ parsed rfl rfl
  exact ⟨unusable, (runs_leave_files (Bench.host 2000) treeDisk line b files).2.2.1 unusable⟩

/-- A blank file is not a JSON text, and yet stops no command line: it stands for no settings. -/
theorem blank_settings_stop_nothing :
    let files : FileTree := ⟨[([".tether"], .directory),
      ([".tether", "settings.json"], .file "\n".toByteArray)]⟩
    let line : CommandLine := ⟨"", none, none, false, none, ".", 0, .list⟩
    let b : Bench := { Bench.empty with serial := [⟨"/dev/ttyACM0", [], [], [], [], []⟩] }
    treeDisk.read (Settings.workspacePath line.workspace) files = .ok "\n".toByteArray ∧
      Json.parse "\n" = .error ⟨.endInValue, ⟨2, 0⟩⟩ ∧
      (line.run (Bench.host 2000) treeDisk b files).1 = .done ["serial@/dev/ttyACM0"] := by
  intro files line b
  have located : Settings.workspacePath line.workspace = "./.tether/settings.json" := by decide
  refine ⟨?_, rfl, ?_⟩
  · rw [located]
    rfl
  · decide +kernel

end DeviceConnect
