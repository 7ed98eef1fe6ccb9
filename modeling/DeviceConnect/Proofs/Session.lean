import DeviceConnect.Proofs.Simulation
import Mathlib.Data.List.Induction

/-! What can become of a session. Its three fields are assigned one after the other, yet after
every operation they agree: nothing is open, or there is a link, what its device reported and the
state that goes with it. Where they agree no event is ever ignored. -/
namespace DeviceConnect

variable {σ ℓ : Type}

namespace Session

/-- The three fields agree. -/
inductive Sound : Session ℓ → Prop
  | idle : Sound .start
  | connected (link : ℓ) (info : ConnectionInfo) :
      Sound ⟨.ofMode info.mode, some link, some info⟩

theorem Sound.link_iff_info {s : Session ℓ} (sound : Sound s) : s.link.isSome ↔ s.info.isSome := by
  cases sound with
  | idle => exact Iff.rfl
  | connected link info => exact Iff.rfl

theorem Sound.info_iff_connected {s : Session ℓ} (sound : Sound s) :
    s.info.isSome ↔ s.isConnected := by
  cases sound with
  | idle => exact iff_of_false Bool.false_ne_true Bool.false_ne_true
  | connected link info =>
      have connected : (ConnectionState.ofMode info.mode).isConnected = true := by
        cases info.mode <;> rfl
      exact ⟨fun _ => connected, fun _ => rfl⟩

theorem Sound.state_of_info {s : Session ℓ} (sound : Sound s) {info : ConnectionInfo}
    (known : s.info = some info) : s.state = .ofMode info.mode := by
  cases sound with
  | idle => cases known
  | connected link info =>
      cases known
      rfl

/-- What a handshake demands of a report: it names the address that was opened, and a protocol
version that the options allow. -/
def Accepted (address : Address) (options : OpenOptions) (info : ConnectionInfo) : Prop :=
  info.address = address ∧
    (info.protocolVersion = 2 ∨ info.protocolVersion = 1 ∧ options.allowLegacy = true)

theorem checkProtocol_eq_ok {version : UInt16} {options : OpenOptions} :
    checkProtocol version options = .ok () ↔
      version = 2 ∨ version = 1 ∧ options.allowLegacy = true := by
  unfold checkProtocol Protocol.version Protocol.legacyVersion
  by_cases current : version = 2
  · simp only [current, if_true, true_or]
  · by_cases legacy : version = 1
    · cases allowed : options.allowLegacy <;> simp [legacy]
    · simp [current, legacy]

theorem accepted_of_readHello {address : Address} {options : OpenOptions}
    {answer : Except TransportError Response} {info : ConnectionInfo}
    (h : readHello address options answer = .ok info) : Accepted address options info := by
  rcases answer with e | ⟨identity⟩ | _ | _
  · cases h
  · simp only [readHello] at h
    cases allowed : checkProtocol identity.protocolVersion options with
    | error e =>
        rw [allowed] at h
        cases h
    | ok =>
        rw [allowed] at h
        cases h
        exact ⟨rfl, checkProtocol_eq_ok.mp allowed⟩
  · cases h
  · cases h

theorem accepted_of_handshake {host : Host σ ℓ} {address : Address} {options : OpenOptions}
    {w w' : σ} {link : ℓ} {info : ConnectionInfo}
    (h : handshake host address options w = (.ok (link, info), w')) :
    Accepted address options info := by
  unfold handshake at h
  split at h
  · cases h
  · dsimp only at h
    split at h
    · next read =>
        cases h
        exact accepted_of_readHello read
    · cases h

section
variable (host : Host σ ℓ) (w : σ)

theorem disconnect_connected (event : SessionEvent) (link : ℓ) (info : ConnectionInfo)
    (leaves : (ConnectionState.ofMode info.mode).next? event = some .disconnected) :
    (⟨.ofMode info.mode, some link, some info⟩ : Session ℓ).disconnect host event w =
      (start, host.close link w) := by
  simp only [disconnect, apply, leaves]
  rfl

theorem close_connected (link : ℓ) (info : ConnectionInfo) :
    (⟨.ofMode info.mode, some link, some info⟩ : Session ℓ).close host w =
      (start, host.close link w) :=
  disconnect_connected host w .closed link info (by cases info.mode <;> rfl)

theorem connect_start (address : Address) (options : OpenOptions) :
    start.connect host address options w =
      match handshake host address options w with
      | (.ok (link, info), w) => (.ok info, ⟨.ofMode info.mode, some link, some info⟩, w)
      | (.error e, w) => (.error e, start, w) := by
  rfl

theorem connect_connected (link : ℓ) (info : ConnectionInfo) (address : Address)
    (options : OpenOptions) :
    (⟨.ofMode info.mode, some link, some info⟩ : Session ℓ).connect host address options w =
      start.connect host address options (host.close link w) := by
  have open_ : (⟨.ofMode info.mode, some link, some info⟩ : Session ℓ).isConnected = true := by
    simp only [isConnected]
    cases info.mode <;> rfl
  rw [connect_start]
  simp only [connect, open_, if_true, close_connected]
  rfl

theorem request_connected (link : ℓ) (info : ConnectionInfo) (command : Command) :
    (⟨.ofMode info.mode, some link, some info⟩ : Session ℓ).request host command w =
      match host.request link command w with
      | (.ok response, link, w) =>
        (.ok response, ⟨.ofMode info.mode, some link, some info⟩, w)
      | (.error e, link, w) => (.error (.transport e), start, host.close link w) := by
  simp only [request]
  rcases host.request link command w with ⟨e | response, link, w⟩
  · simp only [disconnect_connected host w .transportFailed link info (by cases info.mode <;> rfl)]
  · rfl

theorem modeTransition_connected (link : ℓ) (info : ConnectionInfo) (command : Command) :
    (⟨.ofMode info.mode, some link, some info⟩ : Session ℓ).modeTransition host command w =
      match host.request link command w with
      | (.ok (.ack .ok), link, w) => (.ok (), start, host.close link w)
      | (.ok (.ack status), link, w) =>
        (.error (.transport (.refused status)), ⟨.ofMode info.mode, some link, some info⟩, w)
      | (.ok other, link, w) =>
        (.error (.transport (.unexpectedResponse other.describe)),
          ⟨.ofMode info.mode, some link, some info⟩, w)
      | (.error e, link, w) => (.error (.transport e), start, host.close link w) := by
  rw [modeTransition, request_connected]
  rcases host.request link command w with ⟨e | ⟨_⟩ | _ | _ | _ | _, link, w⟩
  · rfl
  · rfl
  · rfl
  · simp only [disconnect_connected host w .modeTransition link info (by cases info.mode <;> rfl)]
  · rfl
  · rfl

end

inductive Operation where
  | connect (address : Address) (options : OpenOptions)
  | close
  | request (command : Command)
  | reset
  | resetToBootloader
  | probe (address : Address)

def Operation.isConnect : Operation → Bool
  | connect .. => true
  | _ => false

/-- Performs an operation and drops what it returns. A driver may probe in a way of its own, of
which nothing is assumed. -/
def perform (host : Host σ ℓ) (probe : Address → σ → Bool × σ) : Operation → Session ℓ × σ → Session ℓ × σ
  | .connect address options, (s, w) => (s.connect host address options w).2
  | .close, (s, w) => s.close host w
  | .request command, (s, w) => (s.request host command w).2
  | .reset, (s, w) => (s.reset host w).2
  | .resetToBootloader, (s, w) => (s.resetToBootloader host w).2
  | .probe address, (s, w) => (s, (probe address w).2)

def run (host : Host σ ℓ) (probe : Address → σ → Bool × σ) (ops : List Operation)
    (start : Session ℓ × σ) : Session ℓ × σ :=
  ops.foldl (fun before op => perform host probe op before) start

theorem run_concat (host : Host σ ℓ) (probe : Address → σ → Bool × σ) (ops : List Operation)
    (op : Operation) (start : Session ℓ × σ) :
    run host probe (ops ++ [op]) start = perform host probe op (run host probe ops start) := by
  simp only [run, List.foldl_append, List.foldl_cons, List.foldl_nil]

/-- What an operation can make of a session. -/
inductive Becomes (host : Host σ ℓ) (op : Operation) (s : Session ℓ) (w : σ) : Session ℓ → Prop
  | idle : Becomes host op s w .start
  | kept {link link' : ℓ} {info : ConnectionInfo} :
      s = ⟨.ofMode info.mode, some link, some info⟩ → op.isConnect = false →
      Becomes host op s w ⟨.ofMode info.mode, some link', some info⟩
  | connected {address : Address} {options : OpenOptions} {link : ℓ} {info : ConnectionInfo} :
      op = .connect address options → (s.connect host address options w).1 = .ok info →
      Accepted address options info →
      Becomes host op s w ⟨.ofMode info.mode, some link, some info⟩

theorem becomes_of_handshake {host : Host σ ℓ} {s : Session ℓ} {address : Address}
    {options : OpenOptions} {w before : σ}
    (opens : s.connect host address options w = start.connect host address options before) :
    Becomes host (.connect address options) s w (s.connect host address options w).2.1 := by
  rw [opens, connect_start]
  rw [connect_start] at opens
  rcases shaken : handshake host address options before with ⟨e | ⟨link, info⟩, after⟩
  · exact .idle
  · rw [shaken] at opens
    exact .connected rfl (congrArg Prod.fst opens) (accepted_of_handshake shaken)

theorem becomes_of_modeTransition {host : Host σ ℓ} {s : Session ℓ} (sound : Sound s)
    {op : Operation} (other : op.isConnect = false) (command : Command) (w : σ) :
    Becomes host op s w (s.modeTransition host command w).2.1 := by
  cases sound with
  | idle => exact .idle
  | connected link info =>
      rw [modeTransition_connected]
      split
      · exact .idle
      · exact .kept rfl other
      · exact .kept rfl other
      · exact .idle

theorem perform_becomes (host : Host σ ℓ) (probe : Address → σ → Bool × σ) (op : Operation)
    {s : Session ℓ} (sound : Sound s) (w : σ) :
    Becomes host op s w (perform host probe op (s, w)).1 := by
  cases op with
  | connect address options =>
      cases sound with
      | idle => exact becomes_of_handshake rfl
      | connected link info => exact becomes_of_handshake (connect_connected host w link info _ _)
  | close =>
      cases sound with
      | idle => exact .idle
      | connected link info =>
          rw [perform, close_connected]
          exact .idle
  | request command =>
      cases sound with
      | idle => exact .idle
      | connected link info =>
          rw [perform, request_connected]
          split
          · exact .kept rfl rfl
          · exact .idle
  | reset => exact becomes_of_modeTransition sound rfl _ w
  | resetToBootloader => exact becomes_of_modeTransition sound rfl _ w
  | probe address =>
      cases sound with
      | idle => exact .idle
      | connected link info => exact .kept rfl rfl

theorem sound_of_becomes {host : Host σ ℓ} {op : Operation} {s s' : Session ℓ} {w : σ}
    (step : Becomes host op s w s') : Sound s' := by
  cases step with
  | idle => exact .idle
  | kept _ _ => exact .connected _ _
  | connected _ _ _ => exact .connected _ _

theorem run_sound (host : Host σ ℓ) (probe : Address → σ → Bool × σ) (ops : List Operation)
    (w : σ) : Sound (run host probe ops (.start, w)).1 := by
  induction ops using List.reverseRecOn with
  | nil => exact .idle
  | append_singleton ops op ih =>
      rw [run_concat]
      exact sound_of_becomes (perform_becomes host probe op ih _)

/-- The last opening of a run returned `info`, and nothing has been opened since. -/
def OpenedBy (host : Host σ ℓ) (probe : Address → σ → Bool × σ) (w : σ) (ops : List Operation)
    (info : ConnectionInfo) : Prop :=
  ∃ before address options after, ops = before ++ .connect address options :: after ∧
    (∀ op ∈ after, op.isConnect = false) ∧
    ((run host probe before (.start, w)).1.connect host address options
      (run host probe before (.start, w)).2).1 = .ok info ∧
    Accepted address options info

theorem OpenedBy.concat {host : Host σ ℓ} {probe : Address → σ → Bool × σ} {w : σ}
    {ops : List Operation} {info : ConnectionInfo} (opened : OpenedBy host probe w ops info)
    {op : Operation} (other : op.isConnect = false) : OpenedBy host probe w (ops ++ [op]) info := by
  obtain ⟨before, address, options, after, rfl, quiet, result, accepted⟩ := opened
  refine ⟨before, address, options, after ++ [op], by simp, ?_, result, accepted⟩
  intro later member
  rcases List.mem_append.mp member with old | new
  · exact quiet later old
  · exact List.mem_singleton.mp new ▸ other

theorem run_openedBy (host : Host σ ℓ) (probe : Address → σ → Bool × σ) (ops : List Operation)
    (w : σ) {info : ConnectionInfo} (known : (run host probe ops (.start, w)).1.info = some info) :
    OpenedBy host probe w ops info := by
  induction ops using List.reverseRecOn generalizing info with
  | nil => cases known
  | append_singleton ops op ih =>
      rw [run_concat] at known
      have step := perform_becomes host probe op (run_sound host probe ops w)
        (run host probe ops (.start, w)).2
      generalize (perform host probe op (run host probe ops (.start, w))).1 = after at known step
      cases step with
      | idle => cases known
      | kept same other =>
          cases known
          exact (ih (by rw [same])).concat other
      | connected isConnect result accepted =>
          cases known
          subst isConnect
          exact ⟨ops, _, _, [], rfl, by simp, result, accepted⟩

end Session

/-- The same host, with every event that is ignored written to a list. -/
def Host.watched (host : Host σ ℓ) : Host (σ × List (ConnectionState × SessionEvent)) ℓ where
  enumerate filter := fun (w, ignored) =>
    let (found, w) := host.enumerate filter w
    (found, w, ignored)
  openLink address := fun (w, ignored) =>
    let (result, w) := host.openLink address w
    (result, w, ignored)
  request link command := fun (w, ignored) =>
    let (answer, link, w) := host.request link command w
    (answer, link, w, ignored)
  close link := fun (w, ignored) => (host.close link w, ignored)
  wait span := fun (w, ignored) => (host.wait span w, ignored)
  now := fun (w, _) => host.now w
  ignored state event := fun (w, ignored) =>
    (host.ignored state event w, ignored ++ [(state, event)])

theorem Host.watched_simulates (host : Host σ ℓ) : host.watched.Simulates host Prod.fst id where
  enumerate _ _ := rfl
  openLink address w := by
    rcases result : host.openLink address w.1 with ⟨_ | _, _⟩ <;>
      simp [Host.watched, result, Except.map]
  request _ _ _ := rfl
  close _ _ := rfl
  wait _ _ := rfl
  ignored _ _ _ := rfl

namespace Session

theorem mapLink_id (s : Session ℓ) : s.mapLink id = s := by
  simp only [mapLink, Option.map_id_fun, id]

section
variable {σ' ℓ' : Type} {rich : Host σ' ℓ'} {plain : Host σ ℓ} {seen : σ' → σ} {bare : ℓ' → ℓ}
  (sim : rich.Simulates plain seen bare) {richly : Address → σ' → Bool × σ'}
  {plainly : Address → σ → Bool × σ}
  (probes : ∀ address w, plainly address (seen w) =
    ((richly address w).1, seen (richly address w).2))
include sim probes

theorem perform_simulated (op : Operation) (s : Session ℓ') (w : σ') :
    perform plain plainly op (s.mapLink bare, seen w) =
      ((perform rich richly op (s, w)).1.mapLink bare, seen (perform rich richly op (s, w)).2) := by
  cases op with
  | connect address options => simp only [perform, connect_simulated sim]
  | close => exact disconnect_simulated sim .closed s w
  | request command => simp only [perform, request_simulated sim]
  | reset => simp only [perform, reset, modeTransition_simulated sim]
  | resetToBootloader => simp only [perform, resetToBootloader, modeTransition_simulated sim]
  | probe address => simp only [perform, probes]

theorem run_simulated (ops : List Operation) (s : Session ℓ') (w : σ') :
    run plain plainly ops (s.mapLink bare, seen w) =
      ((run rich richly ops (s, w)).1.mapLink bare, seen (run rich richly ops (s, w)).2) := by
  induction ops generalizing s w with
  | nil => rfl
  | cons op ops ih =>
      simp only [run, List.foldl_cons, perform_simulated sim probes]
      exact ih (perform rich richly op (s, w)).1 (perform rich richly op (s, w)).2

end

def watchedProbe (probe : Address → σ → Bool × σ) (address : Address)
    (w : σ × List (ConnectionState × SessionEvent)) :
    Bool × σ × List (ConnectionState × SessionEvent) :=
  ((probe address w.1).1, (probe address w.1).2, w.2)

variable (host : Host σ ℓ) (w : σ × List (ConnectionState × SessionEvent))

theorem handshake_watched (address : Address) (options : OpenOptions) :
    (handshake host.watched address options w).2.2 = w.2 := by
  have kept : (host.watched.openLink address w).2.2 = w.2 := rfl
  revert kept
  unfold handshake
  rcases host.watched.openLink address w with ⟨e | link, after⟩
  · exact id
  · dsimp only
    split <;> exact id

theorem connect_start_watched (address : Address) (options : OpenOptions) :
    (start.connect host.watched address options w).2.2.2 = w.2 := by
  have kept := handshake_watched host w address options
  revert kept
  rw [connect_start]
  rcases handshake host.watched address options w with ⟨e | ⟨link, info⟩, after⟩
  · exact id
  · exact id

theorem modeTransition_watched {s : Session ℓ} (sound : Sound s) (command : Command) :
    (s.modeTransition host.watched command w).2.2.2 = w.2 := by
  cases sound with
  | idle => rfl
  | connected link info =>
      rw [modeTransition_connected]
      have kept : (host.watched.request link command w).2.2.2 = w.2 := rfl
      revert kept
      rcases host.watched.request link command w with ⟨e | ⟨_⟩ | _ | _ | _ | _, link, w⟩ <;>
        exact id

theorem perform_watched (probe : Address → σ → Bool × σ) (op : Operation) {s : Session ℓ}
    (sound : Sound s) : (perform host.watched (watchedProbe probe) op (s, w)).2.2 = w.2 := by
  cases op with
  | connect address options =>
      cases sound with
      | idle => exact connect_start_watched host w address options
      | connected link info =>
          rw [perform, connect_connected]
          exact connect_start_watched host _ address options
  | close =>
      cases sound with
      | idle => rfl
      | connected link info =>
          rw [perform, close_connected]
          rfl
  | request command =>
      cases sound with
      | idle => rfl
      | connected link info =>
          rw [perform, request_connected]
          have kept : (host.watched.request link command w).2.2.2 = w.2 := rfl
          revert kept
          rcases host.watched.request link command w with ⟨e | response, link, w⟩ <;> exact id
  | reset => exact modeTransition_watched host w sound .reset
  | resetToBootloader => exact modeTransition_watched host w sound .resetToBootloader
  | probe address => rfl

theorem run_watched (probe : Address → σ → Bool × σ) (ops : List Operation) :
    (run host.watched (watchedProbe probe) ops (.start, w)).2.2 = w.2 := by
  induction ops using List.reverseRecOn with
  | nil => rfl
  | append_singleton ops op ih =>
      rw [run_concat]
      exact (perform_watched host _ probe op (run_sound host.watched _ ops w)).trans ih

end Session

/-- However a session is used, its fields agree; what it knows is what its last opening reported
and could accept; and no event is ever ignored. -/
theorem reachable_session_sound (host : Host σ ℓ) (probe : Address → σ → Bool × σ)
    (ops : List Session.Operation) (w : σ) :
    let s := (Session.run host probe ops (.start, w)).1
    let watched := Session.run host.watched (Session.watchedProbe probe) ops (.start, (w, []))
    (s.link.isSome ↔ s.info.isSome) ∧ (s.info.isSome ↔ s.isConnected) ∧
      (∀ info ∈ s.info, s.state = .ofMode info.mode ∧ Session.OpenedBy host probe w ops info) ∧
      watched.2.2 = [] ∧ Session.run host probe ops (.start, w) = (watched.1, watched.2.1) := by
  have sound := Session.run_sound host probe ops w
  refine ⟨sound.link_iff_info, sound.info_iff_connected, ?_,
    Session.run_watched host (w, []) probe ops, ?_⟩
  · intro info known
    exact ⟨sound.state_of_info known, Session.run_openedBy host probe ops w known⟩
  · simpa only [Session.mapLink_id] using
      Session.run_simulated host.watched_simulates (fun _ _ => rfl) ops .start (w, [])

end DeviceConnect
