import DeviceConnect.Coordinator

/-! Two hosts that do the same as far as one of them can see. A run of a coordinator on the richer
host, seen through the plain one, is the plain run; a written log therefore changes nothing. -/
namespace DeviceConnect

variable {σ σ' ℓ ℓ' : Type}

/-- Every action of `rich`, seen through `seen` and `bare`, is that of `plain`. -/
structure Host.Simulates (rich : Host σ' ℓ') (plain : Host σ ℓ) (seen : σ' → σ) (bare : ℓ' → ℓ) :
    Prop where
  enumerate : ∀ filter w, plain.enumerate filter (seen w) =
    ((rich.enumerate filter w).1, seen (rich.enumerate filter w).2)
  openLink : ∀ address w, plain.openLink address (seen w) =
    ((rich.openLink address w).1.map bare, seen (rich.openLink address w).2)
  request : ∀ link command w, plain.request (bare link) command (seen w) =
    ((rich.request link command w).1, bare (rich.request link command w).2.1,
      seen (rich.request link command w).2.2)
  close : ∀ link w, plain.close (bare link) (seen w) = seen (rich.close link w)
  wait : ∀ span w, plain.wait span (seen w) = seen (rich.wait span w)
  ignored : ∀ state event w,
    plain.ignored state event (seen w) = seen (rich.ignored state event w)

/-- A callback that answers the same for what is seen, and leaves the same to see. -/
def ProgressCallback.Simulates (rich : ProgressCallback σ') (plain : ProgressCallback σ)
    (seen : σ' → σ) : Prop :=
  ∀ round total w, plain round total (seen w) = ((rich round total w).1, seen (rich round total w).2)

theorem Host.traced_simulates (host : Host σ ℓ) :
    host.traced.Simulates host Prod.fst Prod.snd where
  enumerate _ _ := rfl
  openLink address w := by
    rcases result : host.openLink address w.1 with ⟨_ | _, _⟩ <;> simp [Host.traced, result, Except.map]
  request _ _ _ := rfl
  close _ _ := rfl
  wait _ _ := rfl
  ignored _ _ _ := rfl

theorem ProgressCallback.traced_simulates (progress : ProgressCallback σ) :
    progress.traced.Simulates progress Prod.fst := fun _ _ _ => rfl

/-- The session with its link exchanged. -/
def Session.mapLink (bare : ℓ' → ℓ) (s : Session ℓ') : Session ℓ :=
  ⟨s.state, s.link.map bare, s.info⟩

def Coordinator.mapLink (bare : ℓ' → ℓ) (c : Coordinator ℓ') : Coordinator ℓ :=
  { c with session := c.session.mapLink bare }

section
variable {rich : Host σ' ℓ'} {plain : Host σ ℓ} {seen : σ' → σ} {bare : ℓ' → ℓ}
  (sim : rich.Simulates plain seen bare)
include sim

namespace Session

theorem apply_simulated (event : SessionEvent) (s : Session ℓ') (w : σ') :
    (s.mapLink bare).apply plain event (seen w) =
      ((s.apply rich event w).1.mapLink bare, seen (s.apply rich event w).2) := by
  simp only [apply, mapLink]
  cases s.state.next? event with
  | none => exact congrArg _ (sim.ignored s.state event w)
  | some state => rfl

theorem disconnect_simulated (event : SessionEvent) (s : Session ℓ') (w : σ') :
    (s.mapLink bare).disconnect plain event (seen w) =
      ((s.disconnect rich event w).1.mapLink bare, seen (s.disconnect rich event w).2) := by
  obtain ⟨state, link, info⟩ := s
  cases link with
  | none => exact apply_simulated sim event ⟨state, none, none⟩ w
  | some link =>
      simp only [disconnect, mapLink, Option.map_some, sim.close]
      exact apply_simulated sim event ⟨state, none, none⟩ (rich.close link w)

theorem handshake_simulated (address : Address) (options : OpenOptions) (w : σ') :
    handshake plain address options (seen w) =
      ((handshake rich address options w).1.map (Prod.map bare id),
        seen (handshake rich address options w).2) := by
  simp only [handshake, sim.openLink]
  rcases rich.openLink address w with ⟨e | link, w⟩
  · rfl
  · simp only [Except.map, sim.request]
    cases readHello address options (rich.request link (.hello Protocol.version) w).1 with
    | ok info => rfl
    | error e => simp only [sim.close]

theorem connect_simulated (address : Address) (options : OpenOptions) (s : Session ℓ') (w : σ') :
    (s.mapLink bare).connect plain address options (seen w) =
      ((s.connect rich address options w).1, (s.connect rich address options w).2.1.mapLink bare,
        seen (s.connect rich address options w).2.2) := by
  have prepared : (if (s.mapLink bare).isConnected then (s.mapLink bare).close plain (seen w)
      else (s.mapLink bare, seen w)) =
      ((if s.isConnected then s.close rich w else (s, w)).1.mapLink bare,
        seen (if s.isConnected then s.close rich w else (s, w)).2) := by
    change (if s.isConnected then _ else _) = _
    split
    · exact disconnect_simulated sim .closed s w
    · rfl
  simp only [connect, prepared, handshake_simulated sim]
  generalize (if s.isConnected then s.close rich w else (s, w)) = start
  rcases handshake rich address options start.2 with ⟨e | ⟨link, info⟩, w⟩
  · simp only [Except.map, apply_simulated sim]
  · simp only [Except.map, Prod.map_apply, id, apply_simulated sim]
    rfl

theorem request_simulated (command : Command) (s : Session ℓ') (w : σ') :
    (s.mapLink bare).request plain command (seen w) =
      ((s.request rich command w).1, (s.request rich command w).2.1.mapLink bare,
        seen (s.request rich command w).2.2) := by
  obtain ⟨state, link, info⟩ := s
  cases link with
  | none => rfl
  | some link =>
      simp only [request, mapLink, Option.map_some, sim.request]
      rcases rich.request link command w with ⟨e | response, link, w⟩
      · have dropped := disconnect_simulated sim .transportFailed ⟨state, some link, info⟩ w
        simp only [mapLink, Option.map_some] at dropped
        simp only [dropped]
      · rfl

theorem modeTransition_simulated (command : Command) (s : Session ℓ') (w : σ') :
    (s.mapLink bare).modeTransition plain command (seen w) =
      ((s.modeTransition rich command w).1, (s.modeTransition rich command w).2.1.mapLink bare,
        seen (s.modeTransition rich command w).2.2) := by
  simp only [modeTransition, request_simulated sim]
  rcases s.request rich command w with ⟨e | ⟨_⟩ | _ | _ | _ | _, s, w⟩
  · rfl
  · rfl
  · rfl
  · simp only [disconnect_simulated sim]
  · rfl
  · rfl

end Session

namespace Coordinator

theorem tryEach_simulated (options : OpenOptions) (candidates : List Address)
    (last : Option TransportError) (s : Session ℓ') (w : σ') :
    tryEach plain options last candidates (s.mapLink bare) (seen w) =
      ((tryEach rich options last candidates s w).1,
        (tryEach rich options last candidates s w).2.1.mapLink bare,
        seen (tryEach rich options last candidates s w).2.2) := by
  induction candidates generalizing last s w with
  | nil => rfl
  | cons candidate rest ih =>
      simp only [tryEach, Session.connect_simulated sim]
      rcases s.connect rich candidate options w with ⟨e | info, s, w⟩
      · exact ih (some e) s w
      · rfl

theorem runRound_simulated (blacklist : Blacklist) (options : OpenOptions) (spec : Address)
    (preferred : Option Affinity) (s : Session ℓ') (w : σ') :
    runRound plain blacklist options spec preferred (s.mapLink bare) (seen w) =
      ((runRound rich blacklist options spec preferred s w).1,
        (runRound rich blacklist options spec preferred s w).2.1.mapLink bare,
        seen (runRound rich blacklist options spec preferred s w).2.2) := by
  simp only [runRound, sim.enumerate, tryEach_simulated sim]
  rcases tryEach rich options none _ s (rich.enumerate spec.transport w).2 with ⟨e | info, s, w⟩ <;> rfl

theorem runRounds_simulated {asked : ProgressCallback σ'} {progress : ProgressCallback σ}
    (callback : asked.Simulates progress seen) (blacklist : Blacklist) (options : OpenOptions)
    (spec : Address) (preferred : Option Affinity) (delay : Duration) (retries performed : Nat)
    (matched : Bool) (last : Option TransportError) (s : Session ℓ') (w : σ') :
    runRounds plain progress (runRound plain blacklist options spec preferred) delay retries
        performed matched last (s.mapLink bare) (seen w) =
      let run := runRounds rich asked (runRound rich blacklist options spec preferred) delay
        retries performed matched last s w
      (run.1, run.2.1.mapLink bare, seen run.2.2) := by
  induction retries generalizing performed matched last s w with
  | zero =>
      simp only [runRounds, runRound_simulated sim]
      rcases runRound rich blacklist options spec preferred s w with ⟨info | ⟨now, e⟩, s, w⟩ <;> rfl
  | succ retries ih =>
      unfold runRounds
      simp only [runRound_simulated sim]
      rcases runRound rich blacklist options spec preferred s w with ⟨info | ⟨now, e⟩, s, w⟩
      · rfl
      · simp only [callback _ _ w]
        rcases asked (saturated (performed + 2)) none w with ⟨_ | _, w⟩
        · simp only [sim.wait]
          exact ih _ _ _ _ _
        · rfl

/-- Connecting on the richer host, seen through the plain one, is connecting there. -/
theorem connectTo_simulated {asked : ProgressCallback σ'} {progress : ProgressCallback σ}
    (callback : asked.Simulates progress seen) (spec : Address) (policy : RetryPolicy)
    (c : Coordinator ℓ') (w : σ') :
    connectTo plain spec policy progress (c.mapLink bare) (seen w) =
      let run := connectTo rich spec policy asked c w
      (run.1, run.2.1.mapLink bare, seen run.2.2) := by
  unfold connectTo
  simp only [callback _ _ w]
  rcases asked 1 none w with ⟨_ | _, w⟩
  · simp only [mapLink, runRounds_simulated sim callback]
    generalize runRounds rich asked _ policy.delay _ _ _ _ c.session w = run
    rcases run with ⟨e | connected, s, w⟩ <;> rfl
  · rfl

end Coordinator
end
end DeviceConnect
