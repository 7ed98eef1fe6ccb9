import DeviceConnect.Proofs.Blacklist
import DeviceConnect.Proofs.CommandLine
import DeviceConnect.Proofs.Trying

/-! Which devices a command line opens: none whose text is on the blacklist that it loads. The log
is that of the traced host; texts are put on the list while it runs, but none is taken off. -/
namespace DeviceConnect

variable {σ ℓ φ : Type}

/-- The addresses of the links that a log opens, whatever came of them. -/
def openings (log : List Event) : List Address := log.filterMap Event.opened?

/-- No link is opened to a device of this text. -/
def Shuns (text : String) (log : List Event) : Prop := ∀ a ∈ openings log, a.format ≠ text

theorem openings_append (log more : List Event) :
    openings (log ++ more) = openings log ++ openings more := List.filterMap_append

theorem openings_append_silent {more : List Event} (silent : openings more = []) (log : List Event) :
    openings (log ++ more) = openings log := by
  rw [openings_append, silent, List.append_nil]

variable {text : String} {log : List Event}

theorem Shuns.append (shuns : Shuns text log) {more : List Event}
    (others : ∀ a ∈ openings more, a.format ≠ text) : Shuns text (log ++ more) := by
  intro a opened
  rw [openings_append] at opened
  rcases List.mem_append.mp opened with early | late
  · exact shuns a early
  · exact others a late

theorem Shuns.silent (shuns : Shuns text log) {more : List Event} (silent : openings more = []) :
    Shuns text (log ++ more) :=
  shuns.append fun a opened => by rw [silent] at opened; cases opened

/-! ### Connecting -/

theorem Host.traced_preserves (host : Host σ ℓ) (text : String) :
    host.traced.Preserves fun w => Shuns text w.2 where
  requested _ _ shuns := shuns.silent rfl
  closed _ shuns := shuns.silent rfl
  ignored _ _ shuns := shuns

theorem Session.connect_openings (host : Host σ ℓ) (a : Address) (options : OpenOptions)
    (s : Session (Address × ℓ)) (w : σ × List Event) :
    openings (s.connect host.traced a options w).2.2.2 = openings w.2 ++ [a] := by
  obtain ⟨attempt, named, _, written⟩ := connect_traced host a options s w.1 w.2
  refine (congrArg openings written).trans ?_
  rw [openings_append, ← named]
  exact congrArg _ (attempt.filterMap_opened options)

namespace Coordinator

/-- The callback may do as it likes with the world, but not with the log. -/
theorem connectTo_shuns (host : Host σ ℓ) (c : Coordinator (Address × ℓ))
    (listed : text ∈ c.blacklist.entries) {progress : ProgressCallback (σ × List Event)}
    (silent : ∀ round total w, (progress round total w).2.2 = w.2) (spec : Address)
    (policy : RetryPolicy) (w : σ × List Event) (shuns : Shuns text w.2) :
    Shuns text (c.connectTo host.traced spec policy progress w).2.2.2 := by
  refine connectTo_preserves (fun w : σ × List Event => Shuns text w.2) spec
    (fun _ shuns => shuns.silent rfl) (fun round shuns => (silent round none _).symm ▸ shuns)
    (fun _ shuns => shuns.silent rfl) ?_ policy shuns
  intro w a s eligible shuns other opened
  rw [s.connect_openings host a c.options w] at opened
  rcases List.mem_append.mp opened with early | last
  · exact shuns other early
  · intro same
    rw [List.mem_singleton.mp last] at same
    exact ((isEligible_iff c.blacklist spec a).mp eligible).2.2 (same ▸ listed)

theorem connectWithin_shuns (host : Host σ ℓ) (device : String) (config : ConnectConfig)
    (c : Coordinator (Address × ℓ)) (listed : text ∈ c.blacklist.entries) (w : σ × List Event)
    (shuns : Shuns text w.2) :
    Shuns text (c.connectWithin host.traced device config w).2.2.2 := by
  have silent : ∀ round total w',
      (deadline host.traced (host.traced.now w) config.waitSecs round total w').2.2 = w'.2 := by
    intro round total w'
    cases config.waitSecs <;> rfl
  unfold connectWithin connect
  cases Address.parse device with
  | error e => exact shuns
  | ok spec =>
      have after := connectTo_shuns host c listed silent spec config.policy w shuns
      dsimp only
      revert after
      rcases c.connectTo host.traced spec config.policy _ w with ⟨e | connected, c, w⟩
      · exact id
      · exact id

theorem disconnect_shuns (host : Host σ ℓ) (c : Coordinator (Address × ℓ)) (w : σ × List Event)
    (shuns : Shuns text w.2) : Shuns text (c.disconnect host.traced w).2.2 :=
  Session.disconnect_preserves (host.traced_preserves text) shuns .closed c.session

theorem runStatus_shuns (host : Host σ ℓ) (device : String) (config : ConnectConfig)
    (c : Coordinator (Address × ℓ)) (listed : text ∈ c.blacklist.entries) (w : σ × List Event)
    (shuns : Shuns text w.2) : Shuns text (c.runStatus host.traced device config w).2.2.2 := by
  have connected := connectWithin_shuns host device config c listed w shuns
  unfold runStatus
  generalize c.connectWithin host.traced device config w = done at connected
  rcases done with ⟨e | info, c, w⟩
  · exact connected
  · exact disconnect_shuns host c w connected

theorem runReset_shuns (host : Host σ ℓ) (device : String) (config : ConnectConfig)
    (c : Coordinator (Address × ℓ)) (listed : text ∈ c.blacklist.entries) (w : σ × List Event)
    (shuns : Shuns text w.2) : Shuns text (c.runReset host.traced device config w).2.2.2 := by
  have connected := connectWithin_shuns host device config c listed w shuns
  unfold runReset
  generalize c.connectWithin host.traced device config w = done at connected
  rcases done with ⟨e | info, c, w⟩
  · exact connected
  · have reset : Shuns text (c.reset host.traced w).2.2.2 :=
      Session.modeTransition_preserves (host.traced_preserves text) connected .reset c.session
    dsimp only
    generalize c.reset host.traced w = answer at reset
    rcases answer with ⟨e | ⟨⟩, c, w⟩
    · exact reset
    · exact reset

theorem runBootloader_shuns (host : Host σ ℓ) (device : String) (config : ConnectConfig)
    (c : Coordinator (Address × ℓ)) (listed : text ∈ c.blacklist.entries) (w : σ × List Event)
    (shuns : Shuns text w.2) : Shuns text (c.runBootloader host.traced device config w).2.2.2 := by
  have connected := connectWithin_shuns host device config c listed w shuns
  unfold runBootloader
  generalize c.connectWithin host.traced device config w = done at connected
  rcases done with ⟨e | info, c, w⟩
  · exact connected
  · have reset : Shuns text (c.resetToBootloader host.traced w).2.2.2 :=
      Session.modeTransition_preserves (host.traced_preserves text) connected .resetToBootloader
        c.session
    dsimp only
    split
    · exact disconnect_shuns host c w connected
    · generalize c.resetToBootloader host.traced w = answer at reset
      rcases answer with ⟨e | ⟨⟩, c, w⟩
      · exact reset
      · exact reset

end Coordinator

/-! ### Sweeping -/

theorem Host.probe_openings (host : Host σ ℓ) (address : Address) (w : σ) (log : List Event) :
    openings (host.traced.probe address (w, log)).2.2 = openings log ++ [address] := by
  obtain ⟨greeting, after, probed⟩ := host.probe_traced address w log
  rw [probed]
  cases greeting with
  | unopened e => exact openings_append log _
  | answered answer => exact openings_append log _

namespace Coordinator

theorem quarantine_eq_add (disk : Disk φ) (entry : String) (b : Blacklist) (files : φ) :
    (quarantine disk entry b files).2 = (b.add disk entry files).2 := by
  unfold quarantine
  rcases b.add disk entry files with ⟨e | added, b, after⟩
  · rfl
  · rfl

theorem prefix_quarantine (disk : Disk φ) (entry : String) (b : Blacklist) (files : φ) :
    b.entries <+: (quarantine disk entry b files).2.1.entries := by
  rw [quarantine_eq_add]
  exact b.prefix_add disk entry files

theorem sweep_shuns (host : Host σ ℓ) (disk : Disk φ) (quarantining : Bool) (found : List Address)
    {b : Blacklist} (listed : text ∈ b.entries) (w : σ × List Event) (files : φ)
    (shuns : Shuns text w.2) :
    Shuns text (sweep host.traced disk quarantining found b w files).2.2.1.2 := by
  induction found generalizing b w files with
  | nil => exact shuns
  | cons candidate rest ih =>
      unfold sweep
      split
      · exact ih listed w files shuns
      · next absent =>
          have other : candidate.format ≠ text := by
            rintro rfl
            exact absent (by simpa [Blacklist.contains] using listed)
          have probed : Shuns text (host.traced.probe candidate w).2.2 := by
            intro a opened
            rw [show w = (w.1, w.2) from rfl, Host.probe_openings] at opened
            rcases List.mem_append.mp opened with early | late
            · exact shuns a early
            · exact List.mem_singleton.mp late ▸ other
          dsimp only
          split
          · exact ih ((prefix_quarantine disk candidate.format b files).subset listed) _ _ probed
          · exact ih listed _ files probed

/-! ### Command lines -/

theorem perform_shuns (host : Host σ ℓ) (disk : Disk φ) (device : String) (config : ConnectConfig)
    (task : Task) (c : Coordinator (Address × ℓ)) (listed : text ∈ c.blacklist.entries)
    (w : σ × List Event) (files : φ) (shuns : Shuns text w.2) :
    Shuns text (c.perform host.traced disk device config task w files).2.2.1.2 := by
  cases task with
  | list =>
      simp only [perform, runList]
      cases Address.parse device with
      | error e => exact shuns
      | ok spec => exact shuns.silent rfl
  | ping quarantining transport =>
      exact sweep_shuns host disk quarantining _ listed _ files (shuns.silent rfl)
  | status => exact runStatus_shuns host device config c listed w shuns
  | reset => exact runReset_shuns host device config c listed w shuns
  | bootloader => exact runBootloader_shuns host device config c listed w shuns
  | showBlacklist => exact shuns
  | clearBlacklist => exact shuns

end Coordinator

namespace CommandLine

theorem run_shuns (host : Host σ ℓ) (disk : Disk φ) (line : CommandLine) (w : σ × List Event)
    (files : φ) (shuns : Shuns text w.2)
    (listed : ∀ s b, Settings.forWorkspace disk line.workspace files = .ok s →
      Blacklist.load s = .ok b → text ∈ b.entries) :
    Shuns text (line.run host.traced disk w files).2.1.2 := by
  unfold run
  split
  · exact shuns
  · next c config prepared =>
      obtain ⟨s, b, opened, loaded, rfl⟩ := eq_start_of_prepare prepared
      exact Coordinator.disconnect_shuns host _ _ (Coordinator.perform_shuns host disk line.device
        config line.task _ (listed s b opened loaded) w files shuns)

end CommandLine
end DeviceConnect
