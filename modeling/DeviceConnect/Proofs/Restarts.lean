import DeviceConnect.Proofs.Session
import DeviceConnect.Rehearsal

/-! How a restart ends. Only a device that accepts it leaves, and the session ends with it. Whatever
else a device answers is reported and costs nothing; a link that fails is lost. A session that has
lost its device sends nothing until an opening succeeds. -/
namespace DeviceConnect

variable {σ ℓ : Type}

def Response.rejection : Response → TransportError
  | ack status => .refused status
  | other => .unexpectedResponse other.describe

namespace Session

theorem Sound.eq_start {s : Session ℓ} (sound : Sound s) (idle : s.isConnected = false) :
    s = .start := by
  cases sound with
  | idle => rfl
  | connected link info =>
      have connected := (Sound.connected link info).info_iff_connected.mp rfl
      rw [idle] at connected
      cases connected

theorem Sound.reaches {s : Session ℓ} (sound : Sound s) {link : ℓ} (held : link ∈ s.link)
    (host : Host σ ℓ) (command : Command) (w : σ) :
    s.isConnected = true ∧
      (s.request host command w).1 = (host.request link command w).1.mapError .transport := by
  have connected := sound.info_iff_connected.mp (sound.link_iff_info.mp (Option.isSome_of_mem held))
  refine ⟨connected, ?_⟩
  cases sound with
  | idle => cases held
  | connected _ info =>
      cases held
      rw [request_connected]
      rcases host.request link command w with ⟨e | response, link', w'⟩
      · rfl
      · rfl

/-- What a restart returns and leaves, told by what the link does with its command. The link that a
rejection leaves is the one that was asked, as the request left it. -/
structure Restarts (host : Host σ ℓ) (command : Command) (s : Session ℓ) (w : σ)
    (done : Except SessionError Unit × Session ℓ × σ) : Prop where
  ok_iff : done.1 = .ok () ↔ s.isConnected = true ∧
    ∃ link ∈ s.link, (host.request link command w).1 = .ok (.ack .ok)
  ended : done.1 = .ok () → done.2.1 = ⟨.disconnected, none, none⟩
  rejected : ∀ link ∈ s.link, ∀ response link' w',
    host.request link command w = (.ok response, link', w') → response ≠ .ack .ok →
      done = (.error (.transport response.rejection), { s with link := some link' }, w')
  failed : ∀ link ∈ s.link, ∀ e link' w', host.request link command w = (.error e, link', w') →
    done = (.error (.transport e), ⟨.disconnected, none, none⟩, host.close link' w')
  unsent : s.isConnected = false → done = (.error .notConnected, s, w)
  /-- A link that is left can be used: the next command reaches it, and its answer comes back. -/
  usable : ∀ link ∈ done.2.1.link, ∀ next, done.2.1.isConnected = true ∧
    (done.2.1.request host next done.2.2).1 = (host.request link next done.2.2).1.mapError .transport

theorem modeTransition_of_rejection {host : Host σ ℓ} {link link' : ℓ} {info : ConnectionInfo}
    {command : Command} {w w' : σ} {response : Response}
    (answer : host.request link command w = (.ok response, link', w'))
    (other : response ≠ .ack .ok) :
    (⟨.ofMode info.mode, some link, some info⟩ : Session ℓ).modeTransition host command w =
      (.error (.transport response.rejection), ⟨.ofMode info.mode, some link', some info⟩, w') := by
  rw [modeTransition_connected, answer]
  cases response with
  | hello identity => rfl
  | pong => rfl
  | ack status =>
      cases status with
      | ok => exact absurd rfl other
      | badCommand => rfl
      | badState => rfl

theorem modeTransition_ok_iff (host : Host σ ℓ) (link : ℓ) (info : ConnectionInfo)
    (command : Command) (w : σ) :
    ((⟨.ofMode info.mode, some link, some info⟩ : Session ℓ).modeTransition host command w).1 =
      .ok () ↔ (host.request link command w).1 = .ok (.ack .ok) := by
  rcases answer : host.request link command w with ⟨e | response, link', w'⟩
  · rw [modeTransition_connected, answer]
    exact ⟨nofun, nofun⟩
  · by_cases accepted : response = .ack .ok
    · subst accepted
      rw [modeTransition_connected, answer]
      exact iff_of_true rfl rfl
    · rw [modeTransition_of_rejection answer accepted]
      exact ⟨nofun, fun same => absurd (Except.ok.inj same) accepted⟩

theorem modeTransition_restarts (host : Host σ ℓ) (command : Command) {s : Session ℓ}
    (sound : Sound s) (w : σ) : Restarts host command s w (s.modeTransition host command w) := by
  have step : Becomes host .reset s w (s.modeTransition host command w).2.1 :=
    becomes_of_modeTransition sound rfl command w
  have after : Sound (s.modeTransition host command w).2.1 := sound_of_becomes step
  have usable := fun link (held : link ∈ (s.modeTransition host command w).2.1.link) next =>
    after.reaches held host next (s.modeTransition host command w).2.2
  cases sound with
  | idle =>
      exact {
        ok_iff := ⟨nofun, nofun⟩
        ended := nofun
        rejected := nofun
        failed := nofun
        unsent := fun _ => rfl
        usable }
  | connected link info =>
      have connected := (Sound.connected link info).info_iff_connected.mp rfl
      refine {
        ok_iff := ?_
        ended := ?_
        rejected := ?_
        failed := ?_
        unsent := fun idle => absurd connected (Bool.eq_false_iff.mp idle)
        usable }
      · rw [modeTransition_ok_iff]
        constructor
        · intro accepted
          exact ⟨connected, link, rfl, accepted⟩
        · rintro ⟨_, _, ⟨⟩, accepted⟩
          exact accepted
      · intro ok
        have accepted := (modeTransition_ok_iff host link info command w).mp ok
        rw [modeTransition_connected]
        revert accepted
        rcases host.request link command w with ⟨answer, link', w'⟩
        rintro ⟨⟩
        rfl
      · rintro _ ⟨⟩ response link' w' answer other
        exact modeTransition_of_rejection answer other
      · rintro _ ⟨⟩ e link' w' answer
        rw [modeTransition_connected, answer]
        rfl

/-! ### Without a device -/

def Operation.opens (host : Host σ ℓ) (before : Session ℓ × σ) : Operation → Bool
  | connect address options => (before.1.connect host address options before.2).1.isOk
  | _ => false

def Unopened (host : Host σ ℓ) (probe : Address → σ → Bool × σ) :
    List Operation → Session ℓ × σ → Prop
  | [], _ => True
  | op :: later, before =>
    op.opens host before = false ∧ Unopened host probe later (perform host probe op before)

theorem perform_start (host : Host σ ℓ) (probe : Address → σ → Bool × σ) {op : Operation} {w : σ}
    (vain : op.opens host (.start, w) = false) : (perform host probe op (.start, w)).1 = .start := by
  cases op with
  | connect address options =>
      revert vain
      simp only [Operation.opens, perform, connect_start]
      rcases handshake host address options w with ⟨e | ⟨link, info⟩, w'⟩
      · exact fun _ => rfl
      · rintro ⟨⟩
  | close => rfl
  | request command => rfl
  | reset => rfl
  | resetToBootloader => rfl
  | probe address => rfl

/-- What is disconnected stays so, whatever is tried, until an opening succeeds. -/
theorem run_start (host : Host σ ℓ) (probe : Address → σ → Bool × σ) {ops : List Operation} {w : σ}
    (vain : Unopened host probe ops (.start, w)) : (run host probe ops (.start, w)).1 = .start := by
  induction ops generalizing w with
  | nil => rfl
  | cons op later ih =>
      have first := perform_start host probe vain.1
      have rest := vain.2
      rw [run, List.foldl_cons]
      generalize perform host probe op (.start, w) = after at first rest
      obtain ⟨s, w'⟩ := after
      subst first
      exact ih rest

end Session

/-- However a session was used, a restart settles it so. A session without a device refuses every
command; as its world stays what it was on every host, a host that counts its actions counts none. -/
theorem restarts_settle (host : Host σ ℓ) (probe : Address → σ → Bool × σ)
    (ops : List Session.Operation) (w : σ) :
    let now := Session.run host probe ops (.start, w)
    Session.Restarts host .reset now.1 now.2 (now.1.reset host now.2) ∧
      Session.Restarts host .resetToBootloader now.1 now.2 (now.1.resetToBootloader host now.2) ∧
      (now.1.isConnected = false → ∀ later, Session.Unopened host probe later now →
        let after := Session.run host probe later now
        after.1 = ⟨.disconnected, none, none⟩ ∧
          (∀ command, after.1.request host command after.2 = (.error .notConnected, after)) ∧
          after.1.reset host after.2 = (.error .notConnected, after) ∧
          after.1.resetToBootloader host after.2 = (.error .notConnected, after)) := by
  intro now
  have sound : Session.Sound now.1 := Session.run_sound host probe ops w
  refine ⟨Session.modeTransition_restarts host .reset sound now.2,
    Session.modeTransition_restarts host .resetToBootloader sound now.2, ?_⟩
  intro idle later vain after
  have same : now = (.start, now.2) := Prod.ext (sound.eq_start idle) rfl
  have ended : after.1 = .start := by
    rw [same] at vain
    have stays := Session.run_start host probe vain
    rwa [← same] at stays
  have whole : after = (.start, after.2) := Prod.ext ended rfl
  refine ⟨ended, ?_, ?_, ?_⟩
  · intro command
    rw [whole]
    rfl
  · rw [whole]
    rfl
  · rw [whole]
    rfl

/-- A device that is busy keeps its session; once it has left, nothing is sent, also after an opening
in vain. -/
theorem restarted_device_is_gone :
    let a : Address := .serial (some "/dev/ttyACM0")
    let identity : DeviceHello := ⟨2, .normal, ⟨"A7", by decide⟩, 1⟩
    let busy : LinkPlan := .answers [.ok (.hello identity), .ok (.ack .badState)] (some identity)
    let devices : Rehearsal := ⟨[[a]], false, [(a.format, [busy, .fails .timeout])]⟩
    let run := Session.run Rehearsal.host Rehearsal.host.probe
    let tried := run [.connect a ⟨false⟩, .reset] (.start, devices)
    let now := run [.connect a ⟨false⟩, .reset, .resetToBootloader] (.start, devices)
    let later : List Session.Operation := [.request .ping, .connect a ⟨false⟩]
    tried.1.isConnected = true ∧ now.1.isConnected = false ∧
      Session.Unopened Rehearsal.host Rehearsal.host.probe later now ∧
      let after := run later now
      after.1.reset Rehearsal.host after.2 = (.error .notConnected, after) := by
  intro a identity busy devices run tried now later
  have kept : tried.1.isConnected = true := by decide +kernel
  have idle : now.1.isConnected = false := by decide +kernel
  have vain : Session.Unopened Rehearsal.host Rehearsal.host.probe later now :=
    ⟨rfl, by decide +kernel, trivial⟩
  have settled := restarts_settle Rehearsal.host Rehearsal.host.probe
    [.connect a ⟨false⟩, .reset, .resetToBootloader] devices
  exact ⟨kept, idle, vain, (settled.2.2 idle later vain).2.2.1⟩

end DeviceConnect
