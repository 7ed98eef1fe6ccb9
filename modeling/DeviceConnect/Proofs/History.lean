import DeviceConnect.Coordinator

/-! What a log shows of a call of `connectTo`: attempts on candidates, gathered in rounds, with the
questions and waits between them; and what it shows of a probe. A history holds only what the log
holds, so whatever is said of it is said of the actions that were taken. -/
namespace DeviceConnect

variable {σ ℓ : Type}

/-- How a candidate met an attempt. -/
inductive Greeting where
  | unopened (failure : TransportError)
  | answered (answer : Except TransportError Response)

structure Attempt where
  candidate : Address
  /-- The device of the connection that had to be closed first, if there was one. -/
  dropped : Option Address
  greeting : Greeting

namespace Attempt

/-- What the attempt leads to. Only an answer can connect. -/
def result (options : OpenOptions) (a : Attempt) : Except TransportError ConnectionInfo :=
  match a.greeting with
  | .unopened e => .error e
  | .answered answer => Session.readHello a.candidate options answer

def Fails (options : OpenOptions) (a : Attempt) : Prop := ∃ e, a.result options = .error e

/-- The actions of an attempt. After a refused greeting the link is closed again. -/
def events (options : OpenOptions) (a : Attempt) : List Event :=
  a.dropped.toList.map .closed ++
  match a.greeting with
  | .unopened e => [.opened a.candidate (some e)]
  | .answered answer =>
    .opened a.candidate none :: .requested a.candidate (.hello Protocol.version) answer ::
    match Session.readHello a.candidate options answer with
    | .ok _ => []
    | .error _ => [.closed a.candidate]

end Attempt

/-- The attempts that candidates lead to: in their order, up to the first that connects. -/
inductive Tries (options : OpenOptions) : List Address → List Attempt → Prop
  | done : Tries options [] []
  | connected {a rest info} : a.result options = .ok info → Tries options (a.candidate :: rest) [a]
  | failed {a rest later e} : a.result options = .error e → Tries options rest later →
      Tries options (a.candidate :: rest) (a :: later)

/-- What the last of some attempts led to; `before` is how things stood without them. -/
def lastResult (options : OpenOptions) (before : Except (Option TransportError) ConnectionInfo) :
    List Attempt → Except (Option TransportError) ConnectionInfo
  | [] => before
  | a :: later => lastResult options ((a.result options).mapError some) later

namespace Tries

variable {options : OpenOptions} {candidates : List Address} {attempts : List Attempt}

theorem all_of_failed (tries : Tries options candidates attempts)
    {last e : Option TransportError} (failed : lastResult options (.error last) attempts = .error e) :
    attempts.map Attempt.candidate = candidates ∧ ∀ a ∈ attempts, a.Fails options := by
  induction tries generalizing last with
  | done => exact ⟨rfl, by simp⟩
  | connected connects =>
      rw [lastResult, connects] at failed
      cases failed
  | failed fails tries ih =>
      rw [lastResult, fails] at failed
      obtain ⟨order, all⟩ := ih failed
      exact ⟨congrArg _ order, List.forall_mem_cons.mpr ⟨⟨_, fails⟩, all⟩⟩

theorem winner_of_connected (tries : Tries options candidates attempts)
    {last : Option TransportError} {info : ConnectionInfo}
    (connected : lastResult options (.error last) attempts = .ok info) :
    ∃ earlier winner untried, attempts = earlier ++ [winner] ∧
      candidates = earlier.map Attempt.candidate ++ winner.candidate :: untried ∧
      (∀ a ∈ earlier, a.Fails options) ∧ winner.result options = .ok info := by
  induction tries generalizing last with
  | done => cases connected
  | @connected a rest _ connects =>
      rw [lastResult, connects] at connected
      cases connected
      exact ⟨[], a, rest, rfl, rfl, by simp, connects⟩
  | @failed a _ _ _ fails tries ih =>
      rw [lastResult, fails] at connected
      obtain ⟨earlier, winner, untried, rfl, rfl, all, connects⟩ := ih connected
      exact ⟨a :: earlier, winner, untried, rfl, rfl, List.forall_mem_cons.mpr ⟨⟨_, fails⟩, all⟩, connects⟩

end Tries

/-- A listing and the attempts that followed it. -/
structure Round where
  found : List Address
  attempts : List Attempt

namespace Round

def outcome (options : OpenOptions) (r : Round) : RoundOutcome :=
  match lastResult options (.error none) r.attempts with
  | .ok info => .connected info
  | .error e => .failed (!r.attempts.isEmpty) e

def events (filter : Option Transport) (options : OpenOptions) (r : Round) : List Event :=
  .enumerated filter r.found :: r.attempts.flatMap (Attempt.events options)

variable {options : OpenOptions} {r : Round}

theorem lastResult_of_connected {info : ConnectionInfo}
    (connected : r.outcome options = .connected info) :
    lastResult options (.error none) r.attempts = .ok info := by
  unfold outcome at connected
  split at connected
  · next last => exact RoundOutcome.connected.inj connected ▸ last
  · cases connected

theorem lastResult_of_failed {matched : Bool} {e : Option TransportError}
    (failed : r.outcome options = .failed matched e) :
    lastResult options (.error none) r.attempts = .error e := by
  unfold outcome at failed
  split at failed
  · cases failed
  · next last => exact (RoundOutcome.failed.inj failed).2 ▸ last

end Round

/-- How a call ends: with a connection, by an answer of the callback, or because its rounds are
used up. -/
inductive Ending where
  | connected (info : ConnectionInfo)
  | aborted
  | exhausted

/-- The rounds of a call that may retry `retries` times after its next round. It is cut by the
first answer that aborts, the first round that connects and the last round it may make. -/
inductive Course (options : OpenOptions) : Nat → List Round → Ending → Prop
  | aborted {retries} : Course options retries [] .aborted
  | connected {retries r info} : r.outcome options = .connected info →
      Course options retries [r] (.connected info)
  | exhausted {r matched e} : r.outcome options = .failed matched e →
      Course options 0 [r] .exhausted
  | again {retries r matched e later ending} : r.outcome options = .failed matched e →
      Course options retries later ending → Course options (retries + 1) (r :: later) ending

def Ending.events (k : Nat) : Ending → List Event
  | aborted => [.asked (saturated k) none .abort]
  | connected _ | exhausted => []

/-- The actions of a call from question `k` on. The first question is followed by no wait. -/
def transcript (filter : Option Transport) (options : OpenOptions) (delay : Duration)
    (ending : Ending) : Nat → List Round → List Event
  | k, [] => ending.events k
  | k, r :: later =>
    .asked (saturated k) none .proceed :: (if k = 1 then [] else [.waited delay]) ++
    r.events filter options ++ transcript filter options delay ending (k + 1) later

/-- Whether a round so far had a candidate, and the error of the last attempt so far. -/
def noted (options : OpenOptions) (before : Bool × Option TransportError) (r : Round) :
    Bool × Option TransportError :=
  match r.outcome options with
  | .connected _ => before
  | .failed matched e => (before.1 || matched, e.or before.2)

/-- What a call returns after `performed` rounds, given what they left noted. -/
def Ending.report (performed : Nat) (noted : Bool × Option TransportError) :
    Ending → Except ConnectError Connected
  | connected info => .ok ⟨info, saturated performed⟩
  | aborted => .error (.aborted (saturated performed))
  | exhausted => .error (Coordinator.exhausted (saturated performed) noted.1 noted.2)

@[simp] theorem Host.traced_enumerate (host : Host σ ℓ) (filter : Option Transport) (w : σ)
    (log : List Event) : host.traced.enumerate filter (w, log) =
      ((host.enumerate filter w).1, (host.enumerate filter w).2,
        log ++ [.enumerated filter (host.enumerate filter w).1]) := rfl

@[simp] theorem Host.traced_openLink (host : Host σ ℓ) (address : Address) (w : σ)
    (log : List Event) : host.traced.openLink address (w, log) =
      ((host.openLink address w).1.map (address, ·), (host.openLink address w).2,
        log ++ [.opened address (failure? (host.openLink address w).1)]) := rfl

@[simp] theorem Host.traced_request (host : Host σ ℓ) (link : Address × ℓ) (command : Command)
    (w : σ) (log : List Event) : host.traced.request link command (w, log) =
      ((host.request link.2 command w).1, (link.1, (host.request link.2 command w).2.1),
        (host.request link.2 command w).2.2,
        log ++ [.requested link.1 command (host.request link.2 command w).1]) := rfl

@[simp] theorem Host.traced_close (host : Host σ ℓ) (link : Address × ℓ) (w : σ)
    (log : List Event) :
    host.traced.close link (w, log) = (host.close link.2 w, log ++ [.closed link.1]) := rfl

theorem ProgressCallback.traced_log (progress : ProgressCallback σ) {round : UInt32}
    {total : Option UInt32} {w after : σ × List Event} {answer : Progress}
    (h : progress.traced round total w = (answer, after)) :
    after.2 = w.2 ++ [.asked round total answer] := by
  cases h
  rfl

namespace Session

theorem apply_traced (host : Host σ ℓ) (event : SessionEvent) (s : Session (Address × ℓ)) (w : σ)
    (log : List Event) : (s.apply host.traced event (w, log)).2.2 = log := by
  unfold apply
  cases s.state.next? event <;> rfl

theorem close_traced (host : Host σ ℓ) (s : Session (Address × ℓ)) (w : σ) (log : List Event) :
    ∃ dropped : Option Address,
      (s.close host.traced (w, log)).2.2 = log ++ dropped.toList.map .closed := by
  obtain ⟨state, link, info⟩ := s
  cases link with
  | none =>
      refine ⟨none, ?_⟩
      simp [close, disconnect, apply_traced]
  | some link =>
      refine ⟨some link.1, ?_⟩
      simp [close, disconnect, apply_traced]

theorem handshake_traced (host : Host σ ℓ) (candidate : Address) (options : OpenOptions) (w : σ)
    (log : List Event) :
    ∃ greeting, (handshake host.traced candidate options (w, log)).1.map Prod.snd =
        (Attempt.mk candidate none greeting).result options ∧
      (handshake host.traced candidate options (w, log)).2.2 =
        log ++ (Attempt.mk candidate none greeting).events options := by
  unfold handshake
  rw [Host.traced_openLink]
  rcases host.openLink candidate w with ⟨e | link, w⟩
  · exact ⟨.unopened e, rfl, rfl⟩
  · refine ⟨.answered (host.request link (.hello Protocol.version) w).1, ?_⟩
    simp only [Except.map, Host.traced_request, Attempt.result, Attempt.events]
    cases readHello candidate options (host.request link (.hello Protocol.version) w).1 with
    | ok info => simp [failure?]
    | error e => simp [failure?]

theorem connect_traced (host : Host σ ℓ) (candidate : Address) (options : OpenOptions)
    (s : Session (Address × ℓ)) (w : σ) (log : List Event) :
    ∃ a : Attempt, a.candidate = candidate ∧
      (s.connect host.traced candidate options (w, log)).1 = a.result options ∧
      (s.connect host.traced candidate options (w, log)).2.2.2 = log ++ a.events options := by
  have prepared : ∃ dropped : Option Address,
      (if s.isConnected then s.close host.traced (w, log) else (s, (w, log))).2.2 =
        log ++ dropped.toList.map .closed := by
    split
    · exact close_traced host s w log
    · exact ⟨none, by simp⟩
  obtain ⟨dropped, logged⟩ := prepared
  unfold connect
  generalize (if s.isConnected then s.close host.traced (w, log) else (s, (w, log))) = start at logged
  obtain ⟨s, w, before⟩ := start
  subst logged
  obtain ⟨greeting, answered, written⟩ :=
    handshake_traced host candidate options w (log ++ dropped.toList.map .closed)
  refine ⟨⟨candidate, dropped, greeting⟩, rfl, ?_⟩
  have same : (Attempt.mk candidate dropped greeting).result options =
      (Attempt.mk candidate none greeting).result options := rfl
  have whole : (Attempt.mk candidate dropped greeting).events options =
      dropped.toList.map .closed ++ (Attempt.mk candidate none greeting).events options := by
    simp [Attempt.events]
  rw [same, whole, ← List.append_assoc, ← answered, ← written]
  dsimp only
  rcases handshake host.traced candidate options (w, _) with ⟨e | ⟨link, info⟩, w, log⟩
  · exact ⟨rfl, apply_traced host .openFailed s w log⟩
  · exact ⟨rfl, apply_traced host (.opened info.mode) s w log⟩

end Session

namespace Greeting

def isPong : Greeting → Bool
  | unopened _ => false
  | answered answer => match answer with
    | .ok .pong => true
    | _ => false

theorem isPong_iff {greeting : Greeting} :
    greeting.isPong = true ↔ greeting = .answered (.ok .pong) := by
  constructor
  · intro pong
    unfold isPong at pong
    split at pong
    · cases pong
    · split at pong
      · rfl
      · cases pong
  · rintro rfl
    rfl

/-- The actions of a probe that is met so. A link that was opened is closed, whatever it answers. -/
def probeEvents (candidate : Address) : Greeting → List Event
  | unopened e => [.opened candidate (some e)]
  | answered answer =>
    [.opened candidate none, .requested candidate .ping answer, .closed candidate]

end Greeting

theorem Host.probe_traced (host : Host σ ℓ) (a : Address) (w : σ) (log : List Event) :
    ∃ (greeting : Greeting) (after : σ), host.traced.probe a (w, log) =
      (greeting.isPong, after, log ++ greeting.probeEvents a) := by
  unfold probe
  rw [Host.traced_openLink]
  rcases host.openLink a w with ⟨e | link, w⟩
  · exact ⟨.unopened e, w, rfl⟩
  · simp only [Except.map, Host.traced_request, Host.traced_close, List.append_assoc]
    exact ⟨.answered (host.request link .ping w).1, _, rfl⟩

namespace Coordinator

theorem tryEach_traced (host : Host σ ℓ) (options : OpenOptions) (candidates : List Address)
    (last : Option TransportError) (s : Session (Address × ℓ)) (w : σ) (log : List Event) :
    ∃ attempts, Tries options candidates attempts ∧
      (tryEach host.traced options last candidates s (w, log)).1 =
        lastResult options (.error last) attempts ∧
      (tryEach host.traced options last candidates s (w, log)).2.2.2 =
        log ++ attempts.flatMap (Attempt.events options) := by
  induction candidates generalizing last s w log with
  | nil => exact ⟨[], .done, rfl, by simp [tryEach]⟩
  | cons candidate rest ih =>
      obtain ⟨a, rfl, result, written⟩ := s.connect_traced host candidate options w log
      rw [tryEach]
      revert result written
      rcases s.connect host.traced a.candidate options (w, log) with ⟨e | info, s, w, after⟩
      · rintro failed rfl
        obtain ⟨later, tries, ended, written⟩ := ih (some e) s w (log ++ a.events options)
        refine ⟨a :: later, .failed failed.symm tries, ?_, ?_⟩
        · rw [lastResult, ← failed]
          exact ended
        · simpa only [List.flatMap_cons, List.append_assoc] using written
      · rintro connected rfl
        refine ⟨[a], .connected connected.symm, ?_, by simp⟩
        simp only [lastResult, ← connected]
        rfl

theorem runRound_traced (host : Host σ ℓ) (blacklist : Blacklist) (options : OpenOptions)
    (spec : Address) (preferred : Option Affinity) (s : Session (Address × ℓ)) (w : σ)
    (log : List Event) :
    ∃ r : Round, r.found = (host.enumerate spec.transport w).1 ∧
      Tries options (tryOrder blacklist preferred spec r.found) r.attempts ∧
      (runRound host.traced blacklist options spec preferred s (w, log)).1 = r.outcome options ∧
      (runRound host.traced blacklist options spec preferred s (w, log)).2.2.2 =
        log ++ r.events spec.transport options := by
  unfold runRound
  rw [Host.traced_enumerate]
  dsimp only
  obtain ⟨attempts, tries, ended, written⟩ := tryEach_traced host options
    (tryOrder blacklist preferred spec (host.enumerate spec.transport w).1) none s
    (host.enumerate spec.transport w).2
    (log ++ [.enumerated spec.transport (host.enumerate spec.transport w).1])
  refine ⟨⟨(host.enumerate spec.transport w).1, attempts⟩, rfl, tries, ?_⟩
  revert ended written
  rcases tryEach host.traced options none _ s (_, _) with ⟨e | info, s, w, after⟩
  · rintro failed rfl
    have order := (tries.all_of_failed failed.symm).1
    rw [← order]
    simp [Round.outcome, ← failed, Round.events]
  · rintro connected rfl
    simp [Round.outcome, ← connected, Round.events]

/-- The loop enters with its next round already agreed to. What it does from there is a course of
rounds, each of which follows the order of its own listing. -/
theorem runRounds_traced (host : Host σ ℓ) (progress : ProgressCallback σ) (blacklist : Blacklist)
    (options : OpenOptions) (spec : Address) (preferred : Option Affinity) (delay : Duration)
    (retries performed : Nat) (matched : Bool) (last : Option TransportError)
    (s : Session (Address × ℓ)) (w : σ × List Event) :
    ∃ r later ending, Course options retries (r :: later) ending ∧
      (∀ round ∈ r :: later,
        Tries options (tryOrder blacklist preferred spec round.found) round.attempts) ∧
      let run := runRounds host.traced progress.traced
        (runRound host.traced blacklist options spec preferred) delay retries performed matched
        last s w
      run.1 = ending.report (performed + (r :: later).length)
        ((r :: later).foldl (noted options) (matched, last)) ∧
      run.2.2.2 = w.2 ++ r.events spec.transport options ++
        transcript spec.transport options delay ending (performed + 2) later := by
  fun_induction runRounds host.traced progress.traced
    (runRound host.traced blacklist options spec preferred) delay retries performed matched last s w
  case case1 retries performed matched last s w info s' w' h =>
    obtain ⟨r, _, tries, outcome, written⟩ :=
      runRound_traced host blacklist options spec preferred s w.1 w.2
    rw [h] at outcome written
    refine ⟨r, [], .connected info, .connected outcome.symm, by simpa using tries, ?_⟩
    simpa [Ending.report, transcript, Ending.events] using written
  case case2 performed matched last s w now e s' w' h matched' last' =>
    obtain ⟨r, _, tries, outcome, written⟩ :=
      runRound_traced host blacklist options spec preferred s w.1 w.2
    rw [h] at outcome written
    refine ⟨r, [], .exhausted, .exhausted outcome.symm, by simpa using tries, ?_, ?_⟩
    · simp [Ending.report, noted, ← outcome, matched', last']
    · simpa [transcript, Ending.events] using written
  case case3 performed matched last s w now e s' w' h retries w'' answer =>
    obtain ⟨r, _, tries, outcome, written⟩ :=
      runRound_traced host blacklist options spec preferred s w.1 w.2
    rw [h] at outcome written
    refine ⟨r, [], .aborted, .again outcome.symm .aborted, by simpa using tries, rfl, ?_⟩
    simpa [transcript, Ending.events, ← written] using progress.traced_log answer
  case case4 performed matched last s w now e s' w' h matched' last' retries w'' answer ih =>
    obtain ⟨r, _, tries, outcome, written⟩ :=
      runRound_traced host blacklist options spec preferred s w.1 w.2
    rw [h] at outcome written
    obtain ⟨next, later, ending, course, follows, result, rest⟩ := ih
    refine ⟨r, next :: later, ending, .again outcome.symm course,
      List.forall_mem_cons.mpr ⟨tries, follows⟩, ?_, ?_⟩
    · rw [result]
      have seen : noted options (matched, last) r = (matched', last') := by
        simp [noted, ← outcome, matched', last']
      simp only [List.foldl_cons, seen, List.length_cons]
      congr 1
      omega
    · have paused : (host.traced.wait delay w'').2 = w''.2 ++ [.waited delay] := rfl
      simp only [rest, paused, progress.traced_log answer, ← written]
      simp [transcript, List.append_assoc]

theorem connectTo_of_proceed (host : Host σ ℓ) (spec : Address) (policy : RetryPolicy)
    {progress : ProgressCallback σ} (c : Coordinator ℓ) {w w' : σ}
    (answer : progress 1 none w = (.proceed, w')) :
    let run := runRounds host progress (runRound host c.blacklist c.options spec
        (if spec.isAny then c.affinity else none))
      policy.delay policy.maxAttempts.toNat 0 false none c.session w'
    (connectTo host spec policy progress c w).1 = run.1 ∧
      (connectTo host spec policy progress c w).2.2 = run.2.2 := by
  simp only [connectTo, answer]
  split
  next ended =>
    rw [ended]
    exact ⟨rfl, rfl⟩
  next ended =>
    rw [ended]
    exact ⟨rfl, rfl⟩

/-- A call is a course of rounds, and its log is their transcript. -/
theorem connectTo_traced (host : Host σ ℓ) (spec : Address) (policy : RetryPolicy)
    (progress : ProgressCallback σ) (c : Coordinator (Address × ℓ)) (w : σ × List Event) :
    ∃ rounds ending, Course c.options policy.maxAttempts.toNat rounds ending ∧
      (∀ r ∈ rounds, Tries c.options
        (tryOrder c.blacklist (if spec.isAny then c.affinity else none) spec r.found) r.attempts) ∧
      let run := connectTo host.traced spec policy progress.traced c w
      run.1 = ending.report rounds.length (rounds.foldl (noted c.options) (false, none)) ∧
      run.2.2.2 = w.2 ++ transcript spec.transport c.options policy.delay ending 1 rounds := by
  rcases answer : progress.traced 1 none w with ⟨_ | _, w'⟩
  · obtain ⟨r, later, ending, course, follows, result, written⟩ :=
      runRounds_traced host progress c.blacklist c.options spec
        (if spec.isAny then c.affinity else none) policy.delay policy.maxAttempts.toNat 0 false
        none c.session w'
    obtain ⟨same, sameWorld⟩ := connectTo_of_proceed host.traced spec policy c answer
    refine ⟨r :: later, ending, course, follows, ?_, ?_⟩
    · rw [same, result, Nat.zero_add]
    · rw [sameWorld, written, progress.traced_log answer]
      simp [transcript, saturated]
  · have stopped : connectTo host.traced spec policy progress.traced c w =
        (.error (.aborted 0), c, w') := by simp only [connectTo, answer]
    refine ⟨[], .aborted, .aborted, by simp, ?_⟩
    simp only [stopped]
    exact ⟨rfl, progress.traced_log answer⟩

end Coordinator
end DeviceConnect
