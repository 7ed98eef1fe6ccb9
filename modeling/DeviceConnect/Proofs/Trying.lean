import DeviceConnect.Proofs.Candidates

/-! Rules for sessions and for calls that connect. What a host keeps when it carries requests and closes
links, a session keeps. A call lists, asks, waits and tries candidates, and an attempt that connects is
the last thing it does; so what all its parts keep holds at its end. -/
namespace DeviceConnect

variable {σ ℓ : Type}

/-- What holds of a world still holds once a request was carried, a link closed or an event ignored. -/
structure Host.Preserves (host : Host σ ℓ) (holds : σ → Prop) : Prop where
  requested : ∀ {w} link command, holds w → holds (host.request link command w).2.2
  closed : ∀ {w} link, holds w → holds (host.close link w)
  ignored : ∀ {w} state event, holds w → holds (host.ignored state event w)

namespace Session

variable {host : Host σ ℓ} {holds : σ → Prop} (preserves : host.Preserves holds) {w : σ}
  (held : holds w)
include preserves held

theorem apply_preserves (event : SessionEvent) (s : Session ℓ) : holds (s.apply host event w).2 := by
  unfold apply
  cases s.state.next? event with
  | none => exact preserves.ignored s.state event held
  | some state => exact held

theorem disconnect_preserves (event : SessionEvent) (s : Session ℓ) :
    holds (s.disconnect host event w).2 := by
  obtain ⟨state, link, info⟩ := s
  cases link with
  | none => exact apply_preserves preserves held event _
  | some link => exact apply_preserves preserves (preserves.closed link held) event _

theorem request_preserves (command : Command) (s : Session ℓ) :
    holds (s.request host command w).2.2 := by
  obtain ⟨state, link, info⟩ := s
  cases link with
  | none => exact held
  | some link =>
      have asked := preserves.requested link command held
      revert asked
      simp only [request]
      rcases host.request link command w with ⟨e | response, link, w'⟩
      · exact fun asked => disconnect_preserves preserves asked .transportFailed _
      · exact id

theorem modeTransition_preserves (command : Command) (s : Session ℓ) :
    holds (s.modeTransition host command w).2.2 := by
  have asked := request_preserves preserves held command s
  revert asked
  unfold modeTransition
  rcases s.request host command w with ⟨e | ⟨_⟩ | _ | _ | _ | _, s', w'⟩
  · exact id
  · exact id
  · exact id
  · exact fun asked => disconnect_preserves preserves asked .modeTransition s'
  · exact id
  · exact id

end Session

/-- `during` holds of the session and the world as long as a call tries, and `after` once an attempt
has connected. Nothing is said of attempts on candidates that are not eligible. -/
structure Keeps (host : Host σ ℓ) (progress : ProgressCallback σ) (options : OpenOptions)
    (eligible : Address → Prop) (during : Session ℓ → σ → Prop)
    (after : ConnectionInfo → Session ℓ → σ → Prop) : Prop where
  listed : ∀ {s w} filter, during s w → during s (host.enumerate filter w).2
  asked : ∀ {s w} round, during s w → during s (progress round none w).2
  waited : ∀ {s w} span, during s w → during s (host.wait span w)
  failed : ∀ {s w a e s' w'}, eligible a → during s w →
    s.connect host a options w = (.error e, s', w') → during s' w'
  connected : ∀ {s w a info s' w'}, eligible a → during s w →
    s.connect host a options w = (.ok info, s', w') → after info s' w'

namespace Coordinator

variable {host : Host σ ℓ} {progress : ProgressCallback σ} {options : OpenOptions}
  {eligible : Address → Prop} {during : Session ℓ → σ → Prop}
  {after : ConnectionInfo → Session ℓ → σ → Prop}

theorem tryEach_keeps (keeps : Keeps host progress options eligible during after)
    (last : Option TransportError) {candidates : List Address}
    (all : ∀ a ∈ candidates, eligible a) {s : Session ℓ} {w : σ} (begun : during s w) :
    match tryEach host options last candidates s w with
    | (.ok info, s, w) => after info s w
    | (.error _, s, w) => during s w := by
  induction candidates generalizing last s w with
  | nil => exact begun
  | cons candidate rest ih =>
      obtain ⟨here, others⟩ := List.forall_mem_cons.mp all
      rw [tryEach]
      rcases attempt : s.connect host candidate options w with ⟨e | info, s', w'⟩
      · exact ih (some e) others (keeps.failed here begun attempt)
      · exact keeps.connected here begun attempt

theorem runRound_keeps {blacklist : Blacklist} {spec : Address}
    (keeps : Keeps host progress options (isEligible blacklist spec · = true) during after)
    (preferred : Option Affinity) {s : Session ℓ} {w : σ} (begun : during s w) :
    match runRound host blacklist options spec preferred s w with
    | (.connected info, s, w) => after info s w
    | (.failed .., s, w) => during s w := by
  have all : ∀ a ∈ tryOrder blacklist preferred spec (host.enumerate spec.transport w).1,
      isEligible blacklist spec a = true := fun a member => (mem_tryOrder member).2
  have tried := tryEach_keeps keeps none all (keeps.listed spec.transport begun)
  unfold runRound
  revert tried
  dsimp only
  rcases tryEach host options none _ s (host.enumerate spec.transport w).2 with ⟨e | info, s, w⟩
  · exact id
  · exact id

theorem runRounds_keeps {blacklist : Blacklist} {spec : Address}
    (keeps : Keeps host progress options (isEligible blacklist spec · = true) during after)
    (preferred : Option Affinity) (delay : Duration) (retries performed : Nat) (matched : Bool)
    (last : Option TransportError) {s : Session ℓ} {w : σ} (begun : during s w) :
    match runRounds host progress (runRound host blacklist options spec preferred) delay retries
      performed matched last s w with
    | (.ok connected, s, w) => after connected.info s w
    | (.error _, s, w) => during s w := by
  induction retries generalizing performed matched last s w with
  | zero =>
      have round := runRound_keeps keeps preferred begun
      unfold runRounds
      revert round
      rcases runRound host blacklist options spec preferred s w with ⟨info | ⟨now, e⟩, s, w⟩
      · exact id
      · exact id
  | succ retries ih =>
      have round := runRound_keeps keeps preferred begun
      unfold runRounds
      revert round
      rcases runRound host blacklist options spec preferred s w with ⟨info | ⟨now, e⟩, s, w⟩
      · exact id
      · intro tried
        have asked := keeps.asked (saturated (performed + 2)) tried
        dsimp only
        generalize progress (saturated (performed + 2)) none w = answer at asked
        rcases answer with ⟨_ | _, w⟩
        · exact ih _ _ _ (keeps.waited delay asked)
        · exact asked

/-- A call that fails ends while trying, and one that succeeds ends with the attempt that connected. -/
theorem connectTo_keeps {c : Coordinator ℓ} (spec : Address)
    (keeps : Keeps host progress c.options (isEligible c.blacklist spec · = true) during after)
    (policy : RetryPolicy) {w : σ} (begun : during c.session w) :
    match c.connectTo host spec policy progress w with
    | (.ok connected, c', w) => after connected.info c'.session w
    | (.error _, c', w) => during c'.session w := by
  have asked := keeps.asked 1 begun
  unfold connectTo
  generalize progress 1 none w = answer at asked
  rcases answer with ⟨_ | _, w⟩
  · have tried := runRounds_keeps keeps (if spec.isAny then c.affinity else none) policy.delay
      policy.maxAttempts.toNat 0 false none asked
    revert tried
    dsimp only
    rcases runRounds host progress _ policy.delay _ 0 false none c.session w with
      ⟨e | connected, s, w⟩
    · exact id
    · exact id
  · exact asked

theorem connectTo_preserves {c : Coordinator ℓ} (holds : σ → Prop) (spec : Address)
    (listed : ∀ {w} filter, holds w → holds (host.enumerate filter w).2)
    (asked : ∀ {w} round, holds w → holds (progress round none w).2)
    (waited : ∀ {w} span, holds w → holds (host.wait span w))
    (tried : ∀ {w a} (s : Session ℓ), isEligible c.blacklist spec a = true → holds w →
      holds (s.connect host a c.options w).2.2)
    (policy : RetryPolicy) {w : σ} (begun : holds w) :
    holds (c.connectTo host spec policy progress w).2.2 := by
  have keeps : Keeps host progress c.options (isEligible c.blacklist spec · = true)
      (fun _ w => holds w) (fun _ _ w => holds w) := {
    listed := fun filter held => listed filter held
    asked := fun round held => asked round held
    waited := fun span held => waited span held
    failed := fun {s w a e s' w'} eligible held attempt => by
      have after := tried s eligible held
      rwa [attempt] at after
    connected := fun {s w a info s' w'} eligible held attempt => by
      have after := tried s eligible held
      rwa [attempt] at after }
  have ends := connectTo_keeps spec keeps policy begun
  revert ends
  rcases c.connectTo host spec policy progress w with ⟨e | connected, c', w'⟩
  · exact id
  · exact id

end Coordinator
end DeviceConnect
