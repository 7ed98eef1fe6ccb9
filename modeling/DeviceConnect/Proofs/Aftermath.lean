import DeviceConnect.Proofs.Openings
import DeviceConnect.Proofs.Trying

/-! How a call leaves the coordinator. A success leaves the new connection and remembers its device.
A failure leaves everything as it was, or, once a link was opened or should have been, no connection:
the first attempt closes the old one. -/
namespace DeviceConnect

variable {σ ℓ : Type}

namespace Session

theorem connect_leaves (host : Host σ ℓ) {s : Session (Address × ℓ)} (sound : s.Sound)
    (a : Address) (options : OpenOptions) (w : σ × List Event) :
    match s.connect host.traced a options w with
    | (.ok info, s', _) => ∃ link, s' = ⟨.ofMode info.mode, some (info.address, link), some info⟩
    | (.error _, s', _) => s' = .start := by
  have begun : ∃ before,
      s.connect host.traced a options w = start.connect host.traced a options before := by
    cases sound with
    | idle => exact ⟨w, rfl⟩
    | connected link info => exact ⟨_, connect_connected host.traced w link info a options⟩
  obtain ⟨before, same⟩ := begun
  rw [same, connect_start, handshake, Host.traced_openLink]
  rcases host.openLink a before.1 with ⟨e | link, after⟩
  · rfl
  · simp only [Except.map, Host.traced_request]
    generalize host.request link (.hello Protocol.version) after = answer
    cases read : readHello a options answer.1 with
    | error e => rfl
    | ok info =>
        refine ⟨answer.2.1, ?_⟩
        rw [(accepted_of_readHello read).1]

end Session

namespace Coordinator

/-- What a call that still tries has made of the session: nothing yet, or no connection. -/
def Unsettled (before after : Session ℓ) (opened : List Address) : Prop :=
  opened = [] ∧ after = before ∨ opened ≠ [] ∧ after = .start

theorem keeps_unsettled (host : Host σ ℓ) (progress : ProgressCallback σ) (options : OpenOptions)
    (eligible : Address → Prop) {before : Session (Address × ℓ)} (sound : before.Sound) :
    Keeps host.traced progress.traced options eligible
      (fun s w => Unsettled before s (openings w.2))
      (fun info s _ => ∃ link, s = ⟨.ofMode info.mode, some (info.address, link), some info⟩) where
  listed {s w} filter trying := by
    have quiet : openings (host.traced.enumerate filter w).2.2 = openings w.2 :=
      openings_append_silent rfl w.2
    exact quiet ▸ trying
  asked {s w} round trying := by
    have quiet : openings (progress.traced round none w).2.2 = openings w.2 :=
      openings_append_silent rfl w.2
    exact quiet ▸ trying
  waited {s w} span trying := by
    have quiet : openings (host.traced.wait span w).2 = openings w.2 :=
      openings_append_silent rfl w.2
    exact quiet ▸ trying
  failed {s w a e s' w'} _ trying failed := by
    have within : s.Sound := by
      rcases trying with ⟨_, rfl⟩ | ⟨_, rfl⟩
      · exact sound
      · exact .idle
    have opened := s.connect_openings host a options w
    have left := s.connect_leaves host within a options w
    rw [failed] at opened left
    exact .inr ⟨opened ▸ List.append_ne_nil_of_right_ne_nil _ (List.cons_ne_nil a []), left⟩
  connected {s w a info s' w'} _ trying connected := by
    have within : s.Sound := by
      rcases trying with ⟨_, rfl⟩ | ⟨_, rfl⟩
      · exact sound
      · exact .idle
    have left := s.connect_leaves host within a options w
    rwa [connected] at left

theorem connectTo_frame (host : Host σ ℓ) (spec : Address) (policy : RetryPolicy)
    (progress : ProgressCallback σ) (c : Coordinator ℓ) (w : σ) :
    let run := c.connectTo host spec policy progress w
    run.2.1.blacklist = c.blacklist ∧ run.2.1.options = c.options ∧
      run.2.1.affinity = match run.1 with
        | .ok connected => some ⟨connected.info.address, connected.info.serialNumber⟩
        | .error _ => c.affinity := by
  unfold connectTo
  rcases progress 1 none w with ⟨_ | _, w⟩
  · dsimp only
    rcases runRounds host progress _ policy.delay _ 0 false none c.session w with
      ⟨e | connected, s, w⟩
    · exact ⟨rfl, rfl, rfl⟩
    · exact ⟨rfl, rfl, rfl⟩
  · exact ⟨rfl, rfl, rfl⟩

theorem connectTo_ne_invalidAddress (host : Host σ ℓ) (spec : Address) (policy : RetryPolicy)
    (progress : ProgressCallback σ) (c : Coordinator (Address × ℓ)) (w : σ × List Event)
    (cause : AddressError) :
    (c.connectTo host.traced spec policy progress.traced w).1 ≠ .error (.invalidAddress cause) := by
  obtain ⟨rounds, ending, _, _, report, _⟩ := connectTo_traced host spec policy progress c w
  rw [report]
  rintro other
  cases ending with
  | connected info => cases other
  | aborted => cases other
  | exhausted =>
      simp only [Ending.report, exhausted] at other
      split at other
      · split at other <;> cases other
      · cases other

end Coordinator

/-- How a call leaves the coordinator, by what it returned and what it opened. -/
structure Settles (before after : Coordinator (Address × ℓ)) (opened : List Address)
    (result : Except ConnectError Connected) : Prop where
  connected : ∀ connected, result = .ok connected → ∃ link, after.session =
    ⟨.ofMode connected.info.mode, some (connected.info.address, link), some connected.info⟩
  remembered : ∀ connected, result = .ok connected →
    after.affinity = some ⟨connected.info.address, connected.info.serialNumber⟩
  kept : ∀ e, result = .error e → after.affinity = before.affinity
  untouched : ∀ e, result = .error e → opened = [] → after.session = before.session
  dropped : ∀ e, result = .error e → opened ≠ [] → after.session = .start
  blacklist : after.blacklist = before.blacklist
  options : after.options = before.options

theorem connectTo_settles (host : Host σ ℓ) (spec : Address) (policy : RetryPolicy)
    (progress : ProgressCallback σ) {c : Coordinator (Address × ℓ)} (sound : c.session.Sound) (w : σ) :
    let run := c.connectTo host.traced spec policy progress.traced (w, [])
    Settles c run.2.1 (openings run.2.2.2) run.1 := by
  have frame := Coordinator.connectTo_frame host.traced spec policy progress.traced c (w, [])
  have ends := Coordinator.connectTo_keeps spec
    (Coordinator.keeps_unsettled host progress c.options _ sound) policy (w := (w, []))
    (.inl ⟨rfl, rfl⟩)
  rcases call : c.connectTo host.traced spec policy progress.traced (w, []) with
    ⟨e | connected, after, log⟩
  · rw [call] at frame ends
    obtain ⟨blacklist, options, affinity⟩ := frame
    refine {
      connected := nofun
      remembered := nofun
      kept := fun _ _ => affinity
      untouched := fun _ _ unopened => ?_
      dropped := fun _ _ opened => ?_
      blacklist
      options }
    · rcases ends with ⟨_, same⟩ | ⟨opened, _⟩
      · exact same
      · exact absurd unopened opened
    · rcases ends with ⟨unopened, _⟩ | ⟨_, closed⟩
      · exact absurd unopened opened
      · exact closed
  · rw [call] at frame ends
    obtain ⟨blacklist, options, affinity⟩ := frame
    refine {
      connected := ?_
      remembered := ?_
      kept := nofun
      untouched := nofun
      dropped := nofun
      blacklist
      options }
    · rintro _ ⟨⟩
      exact ends
    · rintro _ ⟨⟩
      exact affinity

/-- However a session came about, a call settles the coordinator that has it. A specification that
cannot be read is reported as such, and then nothing was asked, listed, opened or waited for. -/
theorem connect_settles (host : Host σ ℓ) (probe : Address → σ × List Event → Bool × σ × List Event)
    (ops : List Session.Operation) (start : σ × List Event) (blacklist : Blacklist)
    (affinity : Option Affinity) (options : OpenOptions) (text : String) (policy : RetryPolicy)
    (progress : ProgressCallback σ) (w : σ) :
    let c : Coordinator (Address × ℓ) :=
      ⟨(Session.run host.traced probe ops (.start, start)).1, blacklist, affinity, options⟩
    let run := c.connect host.traced text policy progress.traced (w, [])
    Settles c run.2.1 (openings run.2.2.2) run.1 ∧
      (∀ cause, run.1 = .error (.invalidAddress cause) ↔ Address.parse text = .error cause) ∧
      (∀ cause, run.1 = .error (.invalidAddress cause) → run.2 = (c, w, [])) ∧
      (c.mapLink Prod.snd).connect host text policy progress w =
        (run.1, run.2.1.mapLink Prod.snd, run.2.2.1) := by
  intro c
  have sound : c.session.Sound := Session.run_sound host.traced probe ops start
  generalize c = c at sound
  unfold Coordinator.connect
  cases Address.parse text with
  | error cause =>
      refine ⟨?_, ?_, ?_, rfl⟩
      · exact {
          connected := nofun
          remembered := nofun
          kept := fun _ _ => rfl
          untouched := fun _ _ _ => rfl
          dropped := fun _ _ opened => absurd rfl opened
          blacklist := rfl
          options := rfl }
      · intro other
        exact ⟨fun same => by cases same; rfl, fun same => by cases same; rfl⟩
      · exact fun _ _ => rfl
  | ok spec =>
      have valid := c.connectTo_ne_invalidAddress host spec policy progress (w, [])
      refine ⟨connectTo_settles host spec policy progress sound w, ?_, ?_, ?_⟩
      · intro cause
        exact iff_of_false (valid cause) nofun
      · exact fun cause invalid => absurd invalid (valid cause)
      · exact Coordinator.connectTo_simulated host.traced_simulates progress.traced_simulates spec
          policy c (w, [])

end DeviceConnect
