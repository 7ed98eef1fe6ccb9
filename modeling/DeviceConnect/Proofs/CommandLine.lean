import DeviceConnect.CommandLine.Run
import DeviceConnect.Proofs.Simulation

/-! A command line carried out on a host that keeps a log reports, does and leaves behind what it
does on the host itself. -/
namespace DeviceConnect

variable {σ σ' ℓ ℓ' φ : Type} {rich : Host σ' ℓ'} {plain : Host σ ℓ} {seen : σ' → σ}
  {bare : ℓ' → ℓ} (sim : rich.Simulates plain seen bare)

theorem CommandLine.prepare_mapLink (disk : Disk φ) (bare : ℓ' → ℓ) (line : CommandLine)
    (files : φ) : prepare disk line files = (prepare disk line files).map
      fun prepared => (prepared.1.mapLink bare, prepared.2) := by
  unfold prepare
  cases Settings.forWorkspace disk line.workspace files with
  | error e => rfl
  | ok settings =>
      dsimp only
      cases settings.connectDefaults with
      | error e => rfl
      | ok defaults =>
          dsimp only
          cases Blacklist.load settings <;> rfl

theorem CommandLine.eq_start_of_prepare {disk : Disk φ} {line : CommandLine} {files : φ}
    {c : Coordinator ℓ} {config : ConnectConfig}
    (prepared : prepare disk line files = .ok (c, config)) :
    ∃ s b, Settings.forWorkspace disk line.workspace files = .ok s ∧ Blacklist.load s = .ok b ∧
      c = .start b config.options := by
  unfold prepare at prepared
  split at prepared
  · cases prepared
  · next s opened =>
      split at prepared
      · cases prepared
      · split at prepared
        · cases prepared
        · next b loaded =>
            cases prepared
            exact ⟨s, b, opened, loaded, rfl⟩

section
include sim

theorem Host.probe_simulated (address : Address) (w : σ') :
    plain.probe address (seen w) = ((rich.probe address w).1, seen (rich.probe address w).2) := by
  simp only [probe, sim.openLink]
  rcases rich.openLink address w with ⟨e | link, w⟩
  · rfl
  · simp only [Except.map, sim.request, sim.close]

namespace Coordinator

theorem sweep_simulated (disk : Disk φ) (quarantining : Bool) (found : List Address)
    (b : Blacklist) (w : σ') (files : φ) :
    sweep plain disk quarantining found b (seen w) files =
      let run := sweep rich disk quarantining found b w files
      (run.1, run.2.1, seen run.2.2.1, run.2.2.2) := by
  induction found generalizing b w files with
  | nil => rfl
  | cons candidate rest ih =>
      simp only [sweep]
      split
      · exact ih b w files
      · simp only [Host.probe_simulated sim, ih]

theorem pingAll_simulated (disk : Disk φ) (filter : Option Transport) (quarantining : Bool)
    (c : Coordinator ℓ') (w : σ') (files : φ) :
    (c.mapLink bare).pingAll plain disk filter quarantining (seen w) files =
      let run := c.pingAll rich disk filter quarantining w files
      (run.1, run.2.1.mapLink bare, seen run.2.2.1, run.2.2.2) := by
  simp only [pingAll, sim.enumerate, mapLink, sweep_simulated sim]

theorem disconnect_simulated (c : Coordinator ℓ') (w : σ') :
    (c.mapLink bare).disconnect plain (seen w) =
      ((c.disconnect rich w).1.mapLink bare, seen (c.disconnect rich w).2) := by
  simp only [disconnect, mapLink, Session.close, Session.disconnect_simulated sim]

theorem reset_simulated (c : Coordinator ℓ') (w : σ') :
    (c.mapLink bare).reset plain (seen w) =
      ((c.reset rich w).1, (c.reset rich w).2.1.mapLink bare, seen (c.reset rich w).2.2) := by
  simp only [reset, mapLink, Session.reset, Session.modeTransition_simulated sim]

theorem resetToBootloader_simulated (c : Coordinator ℓ') (w : σ') :
    (c.mapLink bare).resetToBootloader plain (seen w) =
      ((c.resetToBootloader rich w).1, (c.resetToBootloader rich w).2.1.mapLink bare,
        seen (c.resetToBootloader rich w).2.2) := by
  simp only [resetToBootloader, mapLink, Session.resetToBootloader,
    Session.modeTransition_simulated sim]

theorem runList_simulated (device : String) (c : Coordinator ℓ') (w : σ') :
    (c.mapLink bare).runList plain device (seen w) =
      ((c.runList rich device w).1, seen (c.runList rich device w).2) := by
  unfold runList
  cases Address.parse device with
  | error e => rfl
  | ok spec => simp only [sim.enumerate, mapLink]

end Coordinator
end

section
variable (clock : ∀ w, plain.now (seen w) = rich.now w)
include clock

theorem deadline_simulates (started : Nat) (limit : Option UInt64) :
    ProgressCallback.Simulates (deadline rich started limit) (deadline plain started limit) seen := by
  intro round total w
  cases limit with
  | none => rfl
  | some seconds => simp only [deadline, clock]

include sim

namespace Coordinator

theorem connectWithin_simulated (device : String) (config : ConnectConfig) (c : Coordinator ℓ')
    (w : σ') : (c.mapLink bare).connectWithin plain device config (seen w) =
      let run := c.connectWithin rich device config w
      (run.1, run.2.1.mapLink bare, seen run.2.2) := by
  simp only [connectWithin, clock, connect]
  cases Address.parse device with
  | error e => rfl
  | ok spec =>
      simp only [connectTo_simulated sim (deadline_simulates clock (rich.now w) config.waitSecs)]
      rcases connectTo rich spec config.policy _ c w with ⟨e | connected, c, w⟩ <;> rfl

theorem runStatus_simulated (device : String) (config : ConnectConfig) (c : Coordinator ℓ')
    (w : σ') : (c.mapLink bare).runStatus plain device config (seen w) =
      let run := c.runStatus rich device config w
      (run.1, run.2.1.mapLink bare, seen run.2.2) := by
  simp only [runStatus, connectWithin_simulated sim clock]
  rcases c.connectWithin rich device config w with ⟨e | connected, c, w⟩
  · rfl
  · simp only [disconnect_simulated sim]

theorem runReset_simulated (device : String) (config : ConnectConfig) (c : Coordinator ℓ')
    (w : σ') : (c.mapLink bare).runReset plain device config (seen w) =
      let run := c.runReset rich device config w
      (run.1, run.2.1.mapLink bare, seen run.2.2) := by
  simp only [runReset, connectWithin_simulated sim clock]
  rcases c.connectWithin rich device config w with ⟨e | connected, c, w⟩
  · rfl
  · simp only [reset_simulated sim]
    rcases c.reset rich w with ⟨e | ⟨⟩, c, w⟩ <;> rfl

theorem runBootloader_simulated (device : String) (config : ConnectConfig) (c : Coordinator ℓ')
    (w : σ') : (c.mapLink bare).runBootloader plain device config (seen w) =
      let run := c.runBootloader rich device config w
      (run.1, run.2.1.mapLink bare, seen run.2.2) := by
  simp only [runBootloader, connectWithin_simulated sim clock]
  rcases c.connectWithin rich device config w with ⟨e | connected, c, w⟩
  · rfl
  · simp only [disconnect_simulated sim, resetToBootloader_simulated sim]
    split
    · rfl
    · rcases c.resetToBootloader rich w with ⟨e | ⟨⟩, c, w⟩ <;> rfl

theorem perform_simulated (disk : Disk φ) (device : String) (config : ConnectConfig) (task : Task)
    (c : Coordinator ℓ') (w : σ') (files : φ) :
    (c.mapLink bare).perform plain disk device config task (seen w) files =
      let run := c.perform rich disk device config task w files
      (run.1, run.2.1.mapLink bare, seen run.2.2.1, run.2.2.2) := by
  cases task with
  | list => simp only [perform, runList_simulated sim]
  | ping quarantining transport => simp only [perform, pingAll_simulated sim]
  | status => simp only [perform, runStatus_simulated sim clock]
  | reset => simp only [perform, runReset_simulated sim clock]
  | bootloader => simp only [perform, runBootloader_simulated sim clock]
  | showBlacklist => rfl
  | clearBlacklist =>
      simp only [perform, runClear, mapLink]
      rcases c.blacklist.clear disk files with ⟨e | ⟨⟩, b, files⟩ <;> rfl

end Coordinator

theorem CommandLine.run_simulated (disk : Disk φ) (line : CommandLine) (w : σ') (files : φ) :
    line.run plain disk (seen w) files =
      let run := line.run rich disk w files
      (run.1, seen run.2.1, run.2.2) := by
  simp only [run, prepare_mapLink disk bare line files]
  rcases (prepare disk line files : Except TaskFailure (Coordinator ℓ' × ConnectConfig)) with
    e | ⟨c, config⟩
  · rfl
  · simp only [Except.map, Coordinator.perform_simulated sim clock,
      Coordinator.disconnect_simulated sim]

end

/-- A log changes nothing that a command line reports, does or leaves behind. -/
theorem CommandLine.run_traced (host : Host σ ℓ) (disk : Disk φ) (line : CommandLine) (w : σ)
    (log : List Event) (files : φ) : line.run host disk w files =
      let run := line.run host.traced disk (w, log) files
      (run.1, run.2.1.1, run.2.2) :=
  run_simulated host.traced_simulates (fun _ => rfl) disk line (w, log) files

end DeviceConnect
