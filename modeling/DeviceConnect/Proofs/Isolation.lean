import DeviceConnect.Proofs.Aftermath
import DeviceConnect.Proofs.CommandLine
import DeviceConnect.Rehearsal

/-! Runs of a coordinator. Its blacklist grows only at its end, and only by sweeps that quarantine.
A device whose text is on it is neither opened nor probed from then on, not even by what is left of
the sweep that put it there. -/
namespace DeviceConnect

variable {σ ℓ φ : Type}

/-- The same host, with every address that it is given to open written to a list. -/
def Host.noting (host : Host σ ℓ) : Host (σ × List Address) ℓ where
  enumerate filter := fun (w, contacts) =>
    let (found, w) := host.enumerate filter w
    (found, w, contacts)
  openLink address := fun (w, contacts) =>
    let (result, w) := host.openLink address w
    (result, w, contacts ++ [address])
  request link command := fun (w, contacts) =>
    let (answer, link, w) := host.request link command w
    (answer, link, w, contacts)
  close link := fun (w, contacts) => (host.close link w, contacts)
  wait span := fun (w, contacts) => (host.wait span w, contacts)
  now := fun (w, _) => host.now w
  ignored state event := fun (w, contacts) => (host.ignored state event w, contacts)

/-- The same probe, with every address that it is given written to the list. -/
def notingProbe (probe : Address → σ → Bool × σ) (address : Address) (w : σ × List Address) :
    Bool × σ × List Address :=
  ((probe address w.1).1, (probe address w.1).2, w.2 ++ [address])

/-- The same callback beside a list that it does not write to. -/
def ProgressCallback.noting (progress : ProgressCallback σ) : ProgressCallback (σ × List Address) :=
  fun round total w => ((progress round total w.1).1, (progress round total w.1).2, w.2)

theorem Host.noting_simulates (host : Host σ ℓ) : host.noting.Simulates host Prod.fst id where
  enumerate _ _ := rfl
  openLink address w := by
    rcases result : host.openLink address w.1 with ⟨_ | _, _⟩ <;>
      simp [Host.noting, result, Except.map]
  request _ _ _ := rfl
  close _ _ := rfl
  wait _ _ := rfl
  ignored _ _ _ := rfl

theorem Coordinator.mapLink_id (c : Coordinator ℓ) : c.mapLink id = c := by
  simp only [mapLink, Session.mapLink_id]

theorem ProgressCallback.noting_simulates (progress : ProgressCallback σ) :
    progress.noting.Simulates progress Prod.fst := fun _ _ _ => rfl

/-! ### What a run consists of -/

/-- A coordinator with the platform and the files that it meets. -/
structure Moment (σ ℓ φ : Type) where
  coordinator : Coordinator ℓ
  world : σ
  files : φ

def Moment.entries (m : Moment σ ℓ φ) : List String := m.coordinator.blacklist.entries

/-- What a caller can ask of a coordinator. -/
inductive Coordinator.Operation (σ : Type) where
  | connect (spec : String) (policy : RetryPolicy) (progress : ProgressCallback σ)
  | connectTo (spec : Address) (policy : RetryPolicy) (progress : ProgressCallback σ)
  | pingAll (filter : Option Transport) (quarantining : Bool)
  | disconnect
  | reset
  | resetToBootloader
  | setOptions (options : OpenOptions)

namespace Coordinator.Operation

def quarantines : Operation σ → Bool
  | pingAll _ quarantining => quarantining
  | _ => false

def noting : Operation σ → Operation (σ × List Address)
  | connect spec policy progress => connect spec policy progress.noting
  | connectTo spec policy progress => connectTo spec policy progress.noting
  | pingAll filter quarantining => pingAll filter quarantining
  | disconnect => disconnect
  | reset => reset
  | resetToBootloader => resetToBootloader
  | setOptions options => setOptions options

end Coordinator.Operation

namespace Moment

/-- One turn of a sweep. A candidate that is on the blacklist is passed over. -/
def visit (probe : Address → σ → Bool × σ) (disk : Disk φ) (quarantining : Bool)
    (m : Moment σ ℓ φ) (candidate : Address) : Moment σ ℓ φ :=
  if m.coordinator.blacklist.contains candidate.format then m
  else
    let (responded, world) := probe candidate m.world
    if !responded && quarantining then
      let (_, blacklist, files) :=
        Coordinator.quarantine disk candidate.format m.coordinator.blacklist m.files
      ⟨{ m.coordinator with blacklist }, world, files⟩
    else { m with world }

def listed (host : Host σ ℓ) (filter : Option Transport) (m : Moment σ ℓ φ) : Moment σ ℓ φ :=
  { m with world := (host.enumerate filter m.world).2 }

/-- Performs an operation and drops what it returns. A driver may probe in a way of its own, of
which nothing is assumed. -/
def perform (host : Host σ ℓ) (probe : Address → σ → Bool × σ) (disk : Disk φ)
    (op : Coordinator.Operation σ) (m : Moment σ ℓ φ) : Moment σ ℓ φ :=
  match op with
  | .connect spec policy progress =>
    let (_, coordinator, world) := m.coordinator.connect host spec policy progress m.world
    { m with coordinator, world }
  | .connectTo spec policy progress =>
    let (_, coordinator, world) := m.coordinator.connectTo host spec policy progress m.world
    { m with coordinator, world }
  | .pingAll filter quarantining =>
    (host.enumerate filter m.world).1.foldl (visit probe disk quarantining) (m.listed host filter)
  | .disconnect =>
    let (coordinator, world) := m.coordinator.disconnect host m.world
    { m with coordinator, world }
  | .reset =>
    let (_, coordinator, world) := m.coordinator.reset host m.world
    { m with coordinator, world }
  | .resetToBootloader =>
    let (_, coordinator, world) := m.coordinator.resetToBootloader host m.world
    { m with coordinator, world }
  | .setOptions options => { m with coordinator := m.coordinator.setOptions options }

def run (host : Host σ ℓ) (probe : Address → σ → Bool × σ) (disk : Disk φ)
    (ops : List (Coordinator.Operation σ)) (m : Moment σ ℓ φ) : Moment σ ℓ φ :=
  ops.foldl (fun m op => perform host probe disk op m) m

theorem foldl_visit_probe (host : Host σ ℓ) (disk : Disk φ) (quarantining : Bool)
    (found : List Address) (c : Coordinator ℓ) (w : σ) (files : φ) :
    let run := Coordinator.sweep host disk quarantining found c.blacklist w files
    found.foldl (visit host.probe disk quarantining) ⟨c, w, files⟩ =
      ⟨{ c with blacklist := run.2.1 }, run.2.2.1, run.2.2.2⟩ := by
  induction found generalizing c w files with
  | nil => rfl
  | cons candidate rest ih =>
      rw [List.foldl_cons]
      unfold Coordinator.sweep visit
      dsimp only
      split
      · exact ih c w files
      · split
        · exact ih _ _ _
        · exact ih _ _ _

theorem perform_pingAll (host : Host σ ℓ) (disk : Disk φ) (filter : Option Transport)
    (quarantining : Bool) (c : Coordinator ℓ) (w : σ) (files : φ) :
    let run := c.pingAll host disk filter quarantining w files
    perform host host.probe disk (.pingAll filter quarantining) ⟨c, w, files⟩ =
      ⟨run.2.1, run.2.2.1, run.2.2.2⟩ :=
  foldl_visit_probe host disk quarantining _ c _ files

end Moment

/-! ### What is handed to the driver -/

theorem Host.noting_preserves (host : Host σ ℓ) (contacts : List Address) :
    host.noting.Preserves fun w => w.2 = contacts where
  requested _ _ same := same
  closed _ same := same
  ignored _ _ same := same

namespace Session

theorem handshake_noting (host : Host σ ℓ) (a : Address) (options : OpenOptions)
    (w : σ × List Address) : (handshake host.noting a options w).2.2 = w.2 ++ [a] := by
  have noted : (host.noting.openLink a w).2.2 = w.2 ++ [a] := rfl
  revert noted
  unfold handshake
  rcases host.noting.openLink a w with ⟨e | link, w'⟩
  · exact id
  · dsimp only
    split
    · exact id
    · exact id

theorem connect_noting (host : Host σ ℓ) (a : Address) (options : OpenOptions) (s : Session ℓ)
    (w : σ × List Address) : (s.connect host.noting a options w).2.2.2 = w.2 ++ [a] := by
  have prepared : (if s.isConnected then s.close host.noting w else (s, w)).2.2 = w.2 := by
    split
    · exact disconnect_preserves (host.noting_preserves w.2) rfl .closed s
    · rfl
  unfold connect
  generalize (if s.isConnected then s.close host.noting w else (s, w)) = begun at prepared
  obtain ⟨s, w'⟩ := begun
  have shaken := handshake_noting host a options w'
  rw [show w'.2 = w.2 from prepared] at shaken
  dsimp only
  revert shaken
  rcases handshake host.noting a options w' with ⟨e | ⟨link, info⟩, w''⟩
  · exact fun shaken => apply_preserves (host.noting_preserves _) shaken .openFailed s
  · exact fun shaken => apply_preserves (host.noting_preserves _) shaken (.opened info.mode) s

end Session

/-- What came to the list of contacts has no text that is among the entries. -/
def Spared (entries : List String) (before after : List Address) : Prop :=
  ∃ contacts, after = before ++ contacts ∧ ∀ a ∈ contacts, a.format ∉ entries

theorem Spared.refl (entries : List String) (contacts : List Address) :
    Spared entries contacts contacts := ⟨[], (List.append_nil contacts).symm, nofun⟩

theorem Spared.concat {entries : List String} {before after : List Address}
    (spared : Spared entries before after) {a : Address} (absent : a.format ∉ entries) :
    Spared entries before (after ++ [a]) := by
  obtain ⟨contacts, rfl, others⟩ := spared
  refine ⟨contacts ++ [a], List.append_assoc _ _ _, fun b member => ?_⟩
  rcases List.mem_append.mp member with early | last
  · exact others b early
  · exact List.mem_singleton.mp last ▸ absent

/-- What any part of a run keeps. The blacklist grows at its end, if at all, and not by what it has
already; and no device whose text is on it is contacted. -/
structure Respects (m m' : Moment (σ × List Address) ℓ φ) : Prop where
  grows : m.entries <+: m'.entries
  nodup : m.entries.Nodup → m'.entries.Nodup
  spared : Spared m.entries m.world.2 m'.world.2

namespace Respects

variable {m m' m'' : Moment (σ × List Address) ℓ φ}

theorem of_entries (same : m'.entries = m.entries)
    (spared : Spared m.entries m.world.2 m'.world.2) : Respects m m' where
  grows := same ▸ List.prefix_rfl
  nodup := same ▸ id
  spared := spared

theorem of_unchanged (same : m'.entries = m.entries) (contacts : m'.world.2 = m.world.2) :
    Respects m m' := of_entries same (contacts ▸ Spared.refl _ _)

theorem refl (m : Moment (σ × List Address) ℓ φ) : Respects m m := of_unchanged rfl rfl

theorem trans (first : Respects m m') (second : Respects m' m'') : Respects m m'' where
  grows := first.grows.trans second.grows
  nodup := second.nodup ∘ first.nodup
  spared := by
    obtain ⟨early, noted, absent⟩ := first.spared
    obtain ⟨late, noted', absent'⟩ := second.spared
    refine ⟨early ++ late, by rw [noted', noted, List.append_assoc], fun a member => ?_⟩
    rcases List.mem_append.mp member with before | behind
    · exact absent a before
    · exact fun listed => absent' a behind (first.grows.subset listed)

end Respects

namespace Coordinator

theorem connectTo_spared (host : Host σ ℓ) (spec : Address) (policy : RetryPolicy)
    (progress : ProgressCallback σ) (c : Coordinator ℓ) (w : σ × List Address) :
    Spared c.blacklist.entries w.2
      (c.connectTo host.noting spec policy progress.noting w).2.2.2 := by
  refine connectTo_preserves
    (fun after : σ × List Address => Spared c.blacklist.entries w.2 after.2) spec
    (fun _ spared => spared) (fun _ spared => spared) (fun _ spared => spared) ?_ policy
    (Spared.refl _ _)
  intro w a s eligible spared
  rw [s.connect_noting host a c.options w]
  exact spared.concat ((isEligible_iff c.blacklist spec a).mp eligible).2.2

theorem quarantine_nodup (disk : Disk φ) (entry : String) {b : Blacklist}
    (nodup : b.entries.Nodup) (files : φ) :
    (quarantine disk entry b files).2.1.entries.Nodup := by
  rw [quarantine_eq_add]
  exact b.add_nodup disk entry nodup files

end Coordinator

/-! ### Steps and runs -/

namespace Moment

variable (host : Host σ ℓ) (probe : Address → σ → Bool × σ) (disk : Disk φ)

theorem foldl_visit_entries (found : List Address) (m : Moment σ ℓ φ) :
    (found.foldl (visit probe disk false) m).entries = m.entries := by
  induction found generalizing m with
  | nil => rfl
  | cons candidate rest ih =>
      have same : (m.visit probe disk false candidate).entries = m.entries := by
        unfold visit
        dsimp only
        split
        · rfl
        · rw [Bool.and_false, if_neg Bool.false_ne_true]
          rfl
      exact (ih _).trans same

theorem perform_entries {op : Coordinator.Operation σ} (keeps : op.quarantines = false)
    (m : Moment σ ℓ φ) : (m.perform host probe disk op).entries = m.entries := by
  cases op with
  | connect spec policy progress =>
      simp only [perform, Coordinator.connect]
      cases Address.parse spec with
      | error e => rfl
      | ok spec =>
          have frame := m.coordinator.connectTo_frame host spec policy progress m.world
          exact congrArg Blacklist.entries frame.1
  | connectTo spec policy progress =>
      have frame := m.coordinator.connectTo_frame host spec policy progress m.world
      exact congrArg Blacklist.entries frame.1
  | pingAll filter quarantining =>
      cases keeps
      exact foldl_visit_entries probe disk _ (m.listed host filter)
  | disconnect => rfl
  | reset => rfl
  | resetToBootloader => rfl
  | setOptions options => rfl

theorem visit_respects (quarantining : Bool) (m : Moment (σ × List Address) ℓ φ)
    (candidate : Address) : Respects m (m.visit (notingProbe probe) disk quarantining candidate) := by
  unfold visit
  split
  · exact .refl m
  · next absent =>
      have missing : candidate.format ∉ m.entries := by
        simpa [Blacklist.contains, entries] using absent
      have probed : Spared m.entries m.world.2 (m.world.2 ++ [candidate]) :=
        (Spared.refl _ _).concat missing
      dsimp only
      split
      · exact {
          grows := Coordinator.prefix_quarantine disk _ _ m.files
          nodup := fun nodup => Coordinator.quarantine_nodup disk _ nodup m.files
          spared := probed }
      · exact { grows := List.prefix_rfl, nodup := id, spared := probed }

theorem foldl_visit_respects (quarantining : Bool) (found : List Address)
    (m : Moment (σ × List Address) ℓ φ) :
    Respects m (found.foldl (visit (notingProbe probe) disk quarantining) m) := by
  induction found generalizing m with
  | nil => exact .refl m
  | cons candidate rest ih =>
      exact (visit_respects probe disk quarantining m candidate).trans (ih _)

theorem connectTo_respects (spec : Address) (policy : RetryPolicy) (progress : ProgressCallback σ)
    (m : Moment (σ × List Address) ℓ φ) :
    Respects m (m.perform host.noting (notingProbe probe) disk
      (.connectTo spec policy progress.noting)) :=
  .of_entries (perform_entries host.noting _ disk rfl m)
    (m.coordinator.connectTo_spared host spec policy progress m.world)

theorem perform_respects (op : Coordinator.Operation σ) (m : Moment (σ × List Address) ℓ φ) :
    Respects m (m.perform host.noting (notingProbe probe) disk op.noting) := by
  cases op with
  | connect spec policy progress =>
      simp only [Coordinator.Operation.noting, perform, Coordinator.connect]
      cases Address.parse spec with
      | error e => exact .refl m
      | ok spec => exact connectTo_respects host probe disk spec policy progress m
  | connectTo spec policy progress => exact connectTo_respects host probe disk spec policy progress m
  | pingAll filter quarantining =>
      have listed : Respects m (m.listed host.noting filter) := .of_unchanged rfl rfl
      exact listed.trans (foldl_visit_respects probe disk quarantining _ _)
  | disconnect =>
      exact .of_unchanged rfl (Session.disconnect_preserves (host.noting_preserves m.world.2) rfl
        .closed m.coordinator.session)
  | reset =>
      exact .of_unchanged rfl (Session.modeTransition_preserves (host.noting_preserves m.world.2) rfl
        .reset m.coordinator.session)
  | resetToBootloader =>
      exact .of_unchanged rfl (Session.modeTransition_preserves (host.noting_preserves m.world.2) rfl
        .resetToBootloader m.coordinator.session)
  | setOptions options => exact .of_unchanged rfl rfl

theorem run_respects (ops : List (Coordinator.Operation σ)) (m : Moment (σ × List Address) ℓ φ) :
    Respects m (m.run host.noting (notingProbe probe) disk (ops.map .noting)) := by
  induction ops generalizing m with
  | nil => exact .refl m
  | cons op later ih => exact (perform_respects host probe disk op m).trans (ih _)

/-- The moment without the list of contacts. -/
def bare (m : Moment (σ × List Address) ℓ φ) : Moment σ ℓ φ := ⟨m.coordinator, m.world.1, m.files⟩

theorem foldl_visit_bare (quarantining : Bool) (found : List Address)
    (m : Moment (σ × List Address) ℓ φ) :
    (found.foldl (visit (notingProbe probe) disk quarantining) m).bare =
      found.foldl (visit probe disk quarantining) m.bare := by
  induction found generalizing m with
  | nil => rfl
  | cons candidate rest ih =>
      have same : (m.visit (notingProbe probe) disk quarantining candidate).bare =
          m.bare.visit probe disk quarantining candidate := by
        unfold visit bare notingProbe
        dsimp only
        split
        · rfl
        · split
          · rfl
          · rfl
      rw [List.foldl_cons, ih, same]
      rfl

theorem connectTo_bare (spec : Address) (policy : RetryPolicy) (progress : ProgressCallback σ)
    (m : Moment (σ × List Address) ℓ φ) :
    (m.perform host.noting (notingProbe probe) disk (.connectTo spec policy progress.noting)).bare =
      m.bare.perform host probe disk (.connectTo spec policy progress) := by
  have same := Coordinator.connectTo_simulated host.noting_simulates progress.noting_simulates spec
    policy m.coordinator m.world
  simp only [Coordinator.mapLink_id] at same
  simp only [perform, bare, same]

theorem perform_bare (op : Coordinator.Operation σ) (m : Moment (σ × List Address) ℓ φ) :
    (m.perform host.noting (notingProbe probe) disk op.noting).bare =
      m.bare.perform host probe disk op := by
  cases op with
  | connect spec policy progress =>
      simp only [Coordinator.Operation.noting, perform, Coordinator.connect]
      cases Address.parse spec with
      | error e => rfl
      | ok spec => exact connectTo_bare host probe disk spec policy progress m
  | connectTo spec policy progress => exact connectTo_bare host probe disk spec policy progress m
  | pingAll filter quarantining =>
      exact foldl_visit_bare probe disk quarantining _ (m.listed host.noting filter)
  | disconnect =>
      have same := Coordinator.disconnect_simulated host.noting_simulates m.coordinator m.world
      simp only [Coordinator.mapLink_id] at same
      simp only [Coordinator.Operation.noting, perform, bare, same]
  | reset =>
      have same := Coordinator.reset_simulated host.noting_simulates m.coordinator m.world
      simp only [Coordinator.mapLink_id] at same
      simp only [Coordinator.Operation.noting, perform, bare, same]
  | resetToBootloader =>
      have same := Coordinator.resetToBootloader_simulated host.noting_simulates m.coordinator m.world
      simp only [Coordinator.mapLink_id] at same
      simp only [Coordinator.Operation.noting, perform, bare, same]
  | setOptions options => rfl

theorem run_bare (ops : List (Coordinator.Operation σ)) (m : Moment (σ × List Address) ℓ φ) :
    (m.run host.noting (notingProbe probe) disk (ops.map .noting)).bare =
      m.bare.run host probe disk ops := by
  induction ops generalizing m with
  | nil => rfl
  | cons op later ih => exact (ih _).trans (congrArg _ (perform_bare host probe disk op m))

end Moment

/-- Whatever a coordinator is asked and whatever fails, at every moment of its run: its blacklist has
no repetitions, keeps what it has and grows by quarantining sweeps alone; and nothing that comes
later contacts a device whose text is on it, nor does what is left of a sweep. The run is the one
without a list of contacts, and takes sweeps as they are unless the driver brings its own probe. -/
theorem runs_respect_blacklist (host : Host σ ℓ) (probe : Address → σ → Bool × σ) (disk : Disk φ)
    {b : Blacklist} (obtained : b.Obtained) (options : OpenOptions) (w : σ) (files : φ)
    (earlier later : List (Coordinator.Operation σ)) :
    let run (ops : List (Coordinator.Operation σ)) (m : Moment (σ × List Address) ℓ φ) :=
      m.run host.noting (notingProbe probe) disk (ops.map .noting)
    let m := run earlier ⟨.start b options, (w, []), files⟩
    m.entries.Nodup ∧
      (∀ op : Coordinator.Operation σ, op.quarantines = false → (run [op] m).entries = m.entries) ∧
      Respects m (run later m) ∧
      (∀ filter quarantining visited ahead,
        (host.noting.enumerate filter m.world).1 = visited ++ ahead →
        Respects
          (visited.foldl (Moment.visit (notingProbe probe) disk quarantining)
            (m.listed host.noting filter))
          (run (.pingAll filter quarantining :: later) m)) ∧
      m.bare = Moment.run host probe disk earlier ⟨.start b options, w, files⟩ ∧
      ∀ filter quarantining (c : Coordinator ℓ) w files,
        Moment.perform host host.probe disk (.pingAll filter quarantining) ⟨c, w, files⟩ =
          let swept := c.pingAll host disk filter quarantining w files
          ⟨swept.2.1, swept.2.2.1, swept.2.2.2⟩ := by
  intro run m
  have begun : Respects ⟨.start b options, (w, []), files⟩ m :=
    Moment.run_respects host probe disk earlier _
  refine ⟨begun.nodup obtained.nodup, ?_, Moment.run_respects host probe disk later m, ?_,
    Moment.run_bare host probe disk earlier _, Moment.perform_pingAll host disk⟩
  · intro op keeps
    have same : op.noting.quarantines = false := by
      cases op <;> exact keeps
    exact Moment.perform_entries host.noting (notingProbe probe) disk same m
  · intro filter quarantining visited ahead listing
    have swept : Moment.perform host.noting (notingProbe probe) disk
        (.pingAll filter quarantining) m =
          ahead.foldl (Moment.visit (notingProbe probe) disk quarantining)
            (visited.foldl (Moment.visit (notingProbe probe) disk quarantining)
              (m.listed host.noting filter)) := by
      rw [Moment.perform, listing, List.foldl_append]
    have rest := Moment.foldl_visit_respects probe disk quarantining ahead
      (visited.foldl (Moment.visit (notingProbe probe) disk quarantining)
        (m.listed host.noting filter))
    rw [← swept] at rest
    exact rest.trans (Moment.run_respects host probe disk later _)

/-- A silent port that one listing shows twice is probed once, and left alone by a later call. -/
theorem port_listed_twice_is_probed_once :
    let a : Address := .serial (some "/dev/ttyACM0")
    let devices : Rehearsal := ⟨[[a, a]], false, [(a.format, [.fails .timeout])]⟩
    let sweep : Coordinator.Operation Rehearsal := .pingAll none true
    let call : Coordinator.Operation Rehearsal := .connectTo .any .once fun _ _ w => (.proceed, w)
    let run (ops : List (Coordinator.Operation Rehearsal))
        (m : Moment (Rehearsal × List Address) RehearsedLink FileTree) :=
      m.run Rehearsal.host.noting (notingProbe Rehearsal.host.probe) treeDisk (ops.map .noting)
    let m := run [sweep] ⟨.start (.inMemory []) ⟨false⟩, (devices, []), .empty⟩
    (Blacklist.inMemory []).Obtained ∧ m.entries = [a.format] ∧ m.world.2 = [a] ∧
      Respects m (run [call] m) := by
  intro a devices sweep call run m
  have obtained : (Blacklist.inMemory []).Obtained := .inMemory []
  have spared := runs_respect_blacklist Rehearsal.host Rehearsal.host.probe treeDisk obtained ⟨false⟩
    devices .empty [sweep] [call]
  exact ⟨obtained, by decide +kernel, by decide +kernel, spared.2.2.1⟩

end DeviceConnect
