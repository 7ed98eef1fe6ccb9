import DeviceConnect.Bench.Host
import DeviceConnect.CommandLine.Run
import DeviceConnect.Proofs.Settings

/-! How a command line comes by its configuration. Each setting is looked for in the options, then in
the document, and is built in if neither has it; a document that says something else than a setting can
be is refused. What is stored is read back. -/
namespace DeviceConnect

namespace Json

theorem asNat_eq_ok {bits : Nat} {want : String} {json : Json} {m : Nat} :
    asNat bits want json = .ok m ↔ json = .int m ∧ m < 2 ^ bits := by
  cases json with
  | int n =>
      rw [asNat, Json.int.injEq]
      split
      · next fits =>
          rw [Except.ok.injEq]
          constructor
          · intro same
            have nat : n = m := by omega
            refine ⟨nat, ?_⟩
            have below := fits.2
            rw [nat] at below
            exact_mod_cast below
          · rintro ⟨rfl, _⟩
            exact Int.toNat_natCast m
      · next outside =>
          simp only [reduceCtorEq, false_iff]
          rintro ⟨rfl, below⟩
          exact outside ⟨Int.natCast_nonneg m, by exact_mod_cast below⟩
  | null | bool | double | str | arr | obj => simp [asNat]

theorem map_asNat_eq_ok {α : Type} {bits : Nat} {want : String} {ofNat : Nat → α} {toNat : α → Nat}
    (ofNat_toNat : ∀ word, ofNat (toNat word) = word) (toNat_lt : ∀ word, toNat word < 2 ^ bits)
    (toNat_ofNat : ∀ m, m < 2 ^ bits → toNat (ofNat m) = m) {json : Json} {word : α} :
    (asNat bits want json).map ofNat = .ok word ↔ json = .int (toNat word) := by
  constructor
  · intro mapped
    cases read : asNat bits want json with
    | error e =>
        rw [read] at mapped
        cases mapped
    | ok m =>
        rw [read] at mapped
        cases mapped
        obtain ⟨whole, fits⟩ := asNat_eq_ok.mp read
        rw [whole, toNat_ofNat m fits]
  · intro whole
    rw [asNat_eq_ok.mpr ⟨whole, toNat_lt word⟩]
    exact congrArg Except.ok (ofNat_toNat word)

theorem asUInt32_eq_ok {json : Json} {n : UInt32} : json.asUInt32 = .ok n ↔ json = .int n.toNat :=
  map_asNat_eq_ok (fun _ => UInt32.ofNat_toNat) UInt32.toNat_lt
    (fun _ fits => UInt32.toNat_ofNat_of_lt fits)

theorem asUInt64_eq_ok {json : Json} {n : UInt64} : json.asUInt64 = .ok n ↔ json = .int n.toNat :=
  map_asNat_eq_ok (fun _ => UInt64.ofNat_toNat) UInt64.toNat_lt
    (fun _ fits => UInt64.toNat_ofNat_of_lt fits)

theorem asBool_eq_ok {json : Json} {value : Bool} : json.asBool = .ok value ↔ json = .bool value := by
  cases json <;> simp [asBool]

def Members.read {α : Type} (members : Members) (key : String) (decoder : Decoder α) (fallback : α) :
    Except TypeFault α :=
  match members.find? key with
  | none => .ok fallback
  | some json => decoder json

namespace Members

variable {α : Type} {members : Members} {key : String}

theorem read_nil (key : String) (decoder : Decoder α) (fallback : α) :
    read [] key decoder fallback = .ok fallback := rfl

theorem read_cons_self (value : Json) (rest : Members) (decoder : Decoder α) (fallback : α) :
    read ((key, value) :: rest) key decoder fallback = decoder value := by
  rw [read, find?, if_pos rfl]

theorem read_cons_of_ne {other : String} (differ : other ≠ key) (value : Json) (rest : Members)
    (decoder : Decoder α) (fallback : α) :
    read ((other, value) :: rest) key decoder fallback = rest.read key decoder fallback := by
  rw [read, find?, if_neg differ, read]

theorem read_of_absent (absent : members.find? key = none) (decoder : Decoder α) (fallback : α) :
    members.read key decoder fallback = .ok fallback := by
  rw [read, absent]

/-- A member is there that is not written as any value is. -/
def Misfits (members : Members) (key : String) (write : α → Json) : Prop :=
  ∃ json, members.find? key = some json ∧ ∀ value, json ≠ write value

theorem stored_or_misfits (members : Members) (key : String) (write : α → Json) :
    (∃ stored : Option α, members.find? key = stored.map write) ∨ members.Misfits key write := by
  cases found : members.find? key with
  | none => exact .inl ⟨none, rfl⟩
  | some json =>
      by_cases fits : ∃ value, json = write value
      · obtain ⟨value, rfl⟩ := fits
        exact .inl ⟨some value, rfl⟩
      · exact .inr ⟨json, found, not_exists.mp fits⟩

variable {decoder : Decoder α} {write : α → Json}
  (reads : ∀ {json value}, decoder json = .ok value ↔ json = write value)
include reads

theorem read_of_stored {stored : Option α} (said : members.find? key = stored.map write)
    (fallback : α) : members.read key decoder fallback = .ok (stored.getD fallback) := by
  rw [read, said]
  cases stored with
  | none => rfl
  | some value => exact reads.mpr rfl

theorem Misfits.read_ne_ok (misfits : members.Misfits key write) (fallback value : α) :
    members.read key decoder fallback ≠ .ok value := by
  obtain ⟨json, found, other⟩ := misfits
  rw [read, found]
  exact fun read => other value (reads.mp read)

end Members
end Json

structure StoredDefaults where
  retries : Option UInt32
  delayMs : Option UInt64
  allowLegacy : Option Bool

namespace StoredDefaults

def nothing : StoredDefaults := ⟨none, none, none⟩

def onto (stored : StoredDefaults) (d : ConnectDefaults) : ConnectDefaults where
  retries := stored.retries.getD d.retries
  delayMs := stored.delayMs.getD d.delayMs
  allowLegacy := stored.allowLegacy.getD d.allowLegacy

/-- An object has the members that say this, and none that says more of it; it may have any others. -/
structure In (stored : StoredDefaults) (members : Json.Members) : Prop where
  retries : members.find? ConnectDefaults.retriesKey = stored.retries.map fun n => .int n.toNat
  delayMs : members.find? ConnectDefaults.delayKey = stored.delayMs.map fun n => .int n.toNat
  allowLegacy : members.find? ConnectDefaults.legacyKey = stored.allowLegacy.map .bool

end StoredDefaults

namespace ConnectDefaults

theorem readMembers_eq_ok {members : Json.Members} (ascending : members.Ascending)
    {d d' : ConnectDefaults} : d.readMembers members = .ok d' ↔
      members.read retriesKey Json.asUInt32 d.retries = .ok d'.retries ∧
      members.read delayKey Json.asUInt64 d.delayMs = .ok d'.delayMs ∧
      members.read legacyKey Json.asBool d.allowLegacy = .ok d'.allowLegacy := by
  induction members generalizing d with
  | nil =>
      obtain ⟨retries, delayMs, allowLegacy⟩ := d
      obtain ⟨retries', delayMs', allowLegacy'⟩ := d'
      simp [readMembers, Json.Members.read_nil]
  | cons first rest ih =>
      obtain ⟨key, value⟩ := first
      have absent := Json.Members.find?_tail ascending
      have tail := (List.pairwise_cons.mp ascending).2
      rw [readMembers]
      by_cases retries : key = retriesKey
      · subst retries
        rw [if_pos rfl, Json.Members.read_cons_self, Json.Members.read_cons_of_ne (by decide),
          Json.Members.read_cons_of_ne (by decide)]
        cases value.asUInt32 with
        | error e => simp [bind, Except.bind]
        | ok n =>
            refine (ih tail).trans ?_
            rw [Json.Members.read_of_absent absent]
      rw [if_neg retries, Json.Members.read_cons_of_ne retries]
      by_cases delayMs : key = delayKey
      · subst delayMs
        rw [if_pos rfl, Json.Members.read_cons_self, Json.Members.read_cons_of_ne (by decide)]
        cases value.asUInt64 with
        | error e => simp [bind, Except.bind]
        | ok n =>
            refine (ih tail).trans ?_
            rw [Json.Members.read_of_absent absent]
      rw [if_neg delayMs, Json.Members.read_cons_of_ne delayMs]
      by_cases legacy : key = legacyKey
      · subst legacy
        rw [if_pos rfl, Json.Members.read_cons_self]
        cases value.asBool with
        | error e => simp [bind, Except.bind]
        | ok allowed =>
            refine (ih tail).trans ?_
            rw [Json.Members.read_of_absent absent]
      rw [if_neg legacy, Json.Members.read_cons_of_ne legacy]
      exact ih tail

def Misfits (members : Json.Members) : Prop :=
  members.Misfits retriesKey (fun n : UInt32 => .int n.toNat) ∨
    members.Misfits delayKey (fun n : UInt64 => .int n.toNat) ∨ members.Misfits legacyKey .bool

variable {members : Json.Members} {stored : StoredDefaults}

theorem readMembers_of_in (ascending : members.Ascending) (said : stored.In members)
    (d : ConnectDefaults) : d.readMembers members = .ok (stored.onto d) :=
  (readMembers_eq_ok ascending).mpr ⟨Json.Members.read_of_stored Json.asUInt32_eq_ok said.retries _,
    Json.Members.read_of_stored Json.asUInt64_eq_ok said.delayMs _,
    Json.Members.read_of_stored Json.asBool_eq_ok said.allowLegacy _⟩

theorem readMembers_fails_iff (ascending : members.Ascending) (d : ConnectDefaults) :
    (∃ fault, d.readMembers members = .error fault) ↔ Misfits members := by
  constructor
  · rintro ⟨fault, failed⟩
    rcases members.stored_or_misfits retriesKey (fun n : UInt32 => .int n.toNat) with
      ⟨retries, first⟩ | misfits
    · rcases members.stored_or_misfits delayKey (fun n : UInt64 => .int n.toNat) with
        ⟨delayMs, second⟩ | misfits
      · rcases members.stored_or_misfits legacyKey .bool with ⟨allowLegacy, third⟩ | misfits
        · have said : StoredDefaults.In ⟨retries, delayMs, allowLegacy⟩ members :=
            ⟨first, second, third⟩
          cases failed.symm.trans (readMembers_of_in ascending said d)
        · exact .inr (.inr misfits)
      · exact .inr (.inl misfits)
    · exact .inl misfits
  · intro misfits
    cases read : d.readMembers members with
    | error fault => exact ⟨fault, rfl⟩
    | ok d' =>
        obtain ⟨retries, delayMs, allowLegacy⟩ := (readMembers_eq_ok ascending).mp read
        rcases misfits with misfit | misfit | misfit
        · exact absurd retries (misfit.read_ne_ok Json.asUInt32_eq_ok _ _)
        · exact absurd delayMs (misfit.read_ne_ok Json.asUInt64_eq_ok _ _)
        · exact absurd allowLegacy (misfit.read_ne_ok Json.asBool_eq_ok _ _)

theorem toJson_eq (d : ConnectDefaults) : ∃ members : Json.Members, d.toJson = .obj members ∧
    members.Ascending ∧
    StoredDefaults.In ⟨some d.retries, some d.delayMs, some d.allowLegacy⟩ members :=
  ⟨_, rfl, Json.Members.ascending_ofList _, rfl, rfl, rfl⟩

theorem fits_natCast {room n : Nat} (word : n < 2 ^ 64) : Json.Fits room (.int n) :=
  .int (by unfold Json.minInt; omega) (by unfold Json.maxInt; omega)

theorem restorable_toJson (d : ConnectDefaults) (room : Nat) :
    Json.Fits (room + 1) d.toJson ∧ Json.Whole d.toJson := by
  have retries : d.retries.toNat < 2 ^ 64 := Nat.lt_trans d.retries.toNat_lt (by decide)
  refine ⟨.obj (Json.Members.ascending_ofList _) fun m member => ?_, .obj fun m member => ?_⟩
  · have listed := Json.Members.mem_ofList member
    simp only [List.mem_cons, List.not_mem_nil, or_false] at listed
    rcases listed with rfl | rfl | rfl
    · exact fits_natCast retries
    · exact fits_natCast d.delayMs.toNat_lt
    · exact .bool d.allowLegacy
  · have listed := Json.Members.mem_ofList member
    simp only [List.mem_cons, List.not_mem_nil, or_false] at listed
    rcases listed with rfl | rfl | rfl
    · exact .int _
    · exact .int _
    · exact .bool d.allowLegacy

end ConnectDefaults

namespace Settings

variable {φ : Type} {disk : Disk φ} {path : String} {files : φ} {s : Settings}

theorem ascending_of_find? {room : Nat} (fits : Json.Fits (room + 1) (.obj s.root)) {key : String}
    {members : Json.Members} (found : s.root.find? key = some (.obj members)) :
    members.Ascending := by
  cases fits.of_obj.2 _ (Json.Members.mem_of_find? found) with
  | obj ascending => exact ascending

/-- What a document says of the connection: nothing without a member for it, and else what its object
says. -/
inductive Stores (s : Settings) : StoredDefaults → Prop
  | nothing : s.root.find? connectKey = none → Stores s .nothing
  | object {members : Json.Members} {stored : StoredDefaults} :
      s.root.find? connectKey = some (.obj members) → stored.In members → Stores s stored

theorem connectDefaults_of_object {members : Json.Members}
    (found : s.root.find? connectKey = some (.obj members)) :
    s.connectDefaults =
      (ConnectDefaults.builtIn.readMembers members).mapError (.value s.path connectKey) := by
  simp only [connectDefaults, get, found, ConnectDefaults.ofJson]
  cases ConnectDefaults.builtIn.readMembers members <;> rfl

theorem Stores.connectDefaults_eq {stored : StoredDefaults} (stores : s.Stores stored)
    (loaded : load disk path files = .ok s) : s.connectDefaults = .ok (stored.onto .builtIn) := by
  cases stores with
  | nothing absent =>
      simp only [connectDefaults, get, absent]
      rfl
  | object found said =>
      have ascending := ascending_of_find? (fits_of_load loaded).2 found
      rw [connectDefaults_of_object found, ConnectDefaults.readMembers_of_in ascending said]
      rfl

theorem connectDefaults_fails_iff {members : Json.Members} (loaded : load disk path files = .ok s)
    (found : s.root.find? connectKey = some (.obj members)) :
    (∃ fault, s.connectDefaults = .error (.value s.path connectKey fault)) ↔
      ConnectDefaults.Misfits members := by
  have ascending := ascending_of_find? (fits_of_load loaded).2 found
  rw [← ConnectDefaults.readMembers_fails_iff ascending .builtIn, connectDefaults_of_object found]
  cases ConnectDefaults.builtIn.readMembers members with
  | error fault => simp [Except.mapError]
  | ok d => simp [Except.mapError]

theorem reopens_of_setConnect (readsBack : disk.ReadsBack) (loaded : load disk path files = .ok s)
    (whole : Json.Whole (.obj s.root)) {d : ConnectDefaults} {met after : φ}
    (saved : (s.setConnect d).save disk met = (.ok (), after)) :
    load disk s.path after = .ok (s.setConnect d) := by
  obtain ⟨fits, plain⟩ := d.restorable_toJson (Json.maxDepth - 2)
  have restorable : (s.setConnect d).Restorable :=
    Restorable.set ⟨(fits_of_load loaded).2, whole⟩ connectKey fits plain
  exact restorable.load_of_contents? (contents?_of_save readsBack saved)

theorem setConnect_stores (s : Settings) (d : ConnectDefaults) :
    (s.setConnect d).Stores ⟨some d.retries, some d.delayMs, some d.allowLegacy⟩ := by
  obtain ⟨members, written, _, said⟩ := d.toJson_eq
  refine .object ?_ said
  rw [← written]
  exact s.root.find?_insert connectKey d.toJson

end Settings

/-- A command line's configuration takes each setting from its options, else from the document that it
opens, and else it is built in; the legacy protocol is allowed by either of them. It is what the task
is carried out with. An object is refused exactly if one of its settings cannot be what it is said to
be; and defaults that are stored in a document without doubles are what is read of it once it is saved
and opened again, its other members being as before. -/
theorem connect_settings_are_layered {φ : Type} {disk : Disk φ} (readsBack : disk.ReadsBack)
    {path : String} {files : φ} {s : Settings} (opened : Settings.load disk path files = .ok s) :
    (∀ stored, s.Stores stored → s.connectDefaults = .ok (stored.onto .builtIn) ∧
      ∀ line : CommandLine, Settings.workspacePath line.workspace = path → ∃ config : ConnectConfig,
        config.policy = .ofMillis
          ((line.retries.or stored.retries).getD ConnectDefaults.builtIn.retries)
          ((line.delayMs.or stored.delayMs).getD ConnectDefaults.builtIn.delayMs) ∧
        (config.options.allowLegacy = true ↔
          line.legacy = true ∨ stored.allowLegacy = some true) ∧
        config.waitSecs = line.waitSecs ∧
        ∀ b, Blacklist.load s = .ok b → ∀ {σ ℓ : Type} (host : Host σ ℓ) (w : σ),
          line.run host disk w files =
            let done := (Coordinator.start b config.options).perform host disk line.device config
              line.task w files
            (done.1, (done.2.1.disconnect host done.2.2.1).2, done.2.2.2)) ∧
    (∀ members : Json.Members, s.root.find? Settings.connectKey = some (.obj members) →
      ((∃ fault, s.connectDefaults = .error (.value s.path Settings.connectKey fault)) ↔
        ConnectDefaults.Misfits members)) ∧
    (Json.Whole (.obj s.root) → ∀ d met after, (s.setConnect d).save disk met = (.ok (), after) →
      ∃ reopened, Settings.load disk s.path after = .ok reopened ∧
        reopened.connectDefaults = .ok d ∧
        ∀ key, key ≠ Settings.connectKey → reopened.root.find? key = s.root.find? key) := by
  refine ⟨?_, ?_, ?_⟩
  · intro stored stores
    have defaults := stores.connectDefaults_eq opened
    refine ⟨defaults, ?_⟩
    rintro line rfl
    refine ⟨line.connectConfig (stored.onto .builtIn), ?_, ?_, rfl, ?_⟩
    · dsimp only [CommandLine.connectConfig, StoredDefaults.onto]
      cases line.retries <;> cases line.delayMs <;> rfl
    · dsimp only [CommandLine.connectConfig, StoredDefaults.onto]
      rw [Bool.or_eq_true]
      cases stored.allowLegacy with
      | none => simp [ConnectDefaults.builtIn]
      | some allowed => simp
    · intro b loaded σ ℓ host w
      unfold CommandLine.run CommandLine.prepare Settings.forWorkspace
      rw [opened]
      dsimp only
      rw [defaults]
      dsimp only
      rw [loaded]
  · intro members found
    exact Settings.connectDefaults_fails_iff opened found
  · intro whole d met after saved
    have reopened := Settings.reopens_of_setConnect readsBack opened whole saved
    refine ⟨_, reopened, (s.setConnect_stores d).connectDefaults_eq reopened, fun key other => ?_⟩
    exact Json.Members.find?_insert_of_ne other s.root d.toJson

/-- A stored zero and a given zero count as said, the one over what is built in and the other over the
greatest delay. The greatest defaults that there are, stored in their place, are read back. -/
theorem zeros_count_as_said :
    let store : Settings := ⟨"./.tether/settings.json",
      [("connect", .obj [("delay_ms", .int 18446744073709551615), ("note", .null),
        ("retries", .int 0)]), ("é", .arr [.str "x"])]⟩
    let files : FileTree := ⟨[([".tether"], .directory),
      ([".tether", "settings.json"], .file store.text.toByteArray)]⟩
    let line : CommandLine := ⟨"", none, some 0, false, some 5, ".", 0, .status⟩
    let d : ConnectDefaults := ⟨4294967295, 18446744073709551615, true⟩
    Settings.load treeDisk store.path files = .ok store ∧
      Settings.workspacePath line.workspace = store.path ∧
      store.Stores ⟨some 0, some 18446744073709551615, none⟩ ∧ Json.Whole (.obj store.root) ∧
      (∃ config : ConnectConfig, config.policy = .ofMillis 0 0 ∧
        config.options.allowLegacy = false ∧ config.waitSecs = some 5 ∧
        (line.run (Bench.host 2000) treeDisk .empty files).1 =
          ((Coordinator.start ⟨[], some store⟩ config.options).perform (Bench.host 2000) treeDisk ""
            config .status .empty files).1) ∧
      ∃ after reopened, (store.setConnect d).save treeDisk .empty = (.ok (), after) ∧
        Settings.load treeDisk store.path after = .ok reopened ∧ reopened.connectDefaults = .ok d ∧
        reopened.root.find? "é" = some (.arr [.str "x"]) := by
  intro store files line d
  have read (bytes : ByteArray) : treeDisk.read "./.tether/settings.json"
      ⟨[([".tether"], .directory), ([".tether", "settings.json"], .file bytes)]⟩ = .ok bytes := rfl
  have fits : Json.Fits Json.maxDepth (.obj store.root) := by
    refine .obj (by decide +kernel) ?_
    simp only [List.forall_mem_cons, store]
    refine ⟨.obj (by decide +kernel) ?_, .arr (List.forall_mem_singleton.mpr (.str "x")), nofun⟩
    simp only [List.forall_mem_cons]
    exact ⟨.int (by decide) (by decide), .null, .int (by decide) (by decide), nofun⟩
  have whole : Json.Whole (.obj store.root) := by
    refine .obj ?_
    simp only [List.forall_mem_cons, store]
    refine ⟨.obj ?_, .arr (List.forall_mem_singleton.mpr (.str "x")), nofun⟩
    simp only [List.forall_mem_cons]
    exact ⟨.int _, .null, .int _, nofun⟩
  have opened : Settings.load treeDisk store.path files = .ok store :=
    Settings.Restorable.load_of_contents? ⟨fits, whole⟩ (Disk.contents?_eq_some.mpr (read _))
  have located : Settings.workspacePath line.workspace = store.path := by decide
  have stores : store.Stores ⟨some 0, some 18446744073709551615, none⟩ :=
    .object rfl ⟨rfl, rfl, rfl⟩
  obtain ⟨layered, _, restored⟩ := connect_settings_are_layered treeDisk_readsBack opened
  obtain ⟨config, policy, legacy, wait, runs⟩ := (layered _ stores).2 line located
  have strict : config.options.allowLegacy = false := by
    rw [← Bool.not_eq_true, legacy]
    decide
  obtain ⟨after, saved⟩ : ∃ after, (store.setConnect d).save treeDisk .empty = (.ok (), after) :=
    ⟨_, Prod.ext (by decide +kernel) rfl⟩
  obtain ⟨reopened, reads, defaults, others⟩ := restored whole d _ after saved
  refine ⟨opened, located, stores, whole, ⟨config, policy, strict, wait, ?_⟩,
    after, reopened, saved, reads, defaults, others "é" (by decide)⟩
  rw [runs ⟨[], some store⟩ rfl]

end DeviceConnect
