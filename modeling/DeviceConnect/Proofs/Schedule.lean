import DeviceConnect.Proofs.History
import DeviceConnect.Proofs.Simulation

/-! When a call asks, lists, tries and waits, and when it stops. The order of its actions is that of
a transcript; the counts follow from the order. A second loop keeps its counter in a word whose
last value has no successor, and never gets that far. -/
namespace DeviceConnect

variable {σ ℓ : Type}

namespace Event

def listing? : Event → Option (Option Transport × List Address)
  | enumerated filter found => some (filter, found)
  | _ => none

def wait? : Event → Option Duration
  | waited span => some span
  | _ => none

def question? : Event → Option (UInt32 × Option UInt32)
  | asked round total _ => some (round, total)
  | _ => none

/-- Whether nothing may follow: an answer that aborts, or a greeting that is accepted. -/
def ends (options : OpenOptions) : Event → Bool
  | asked _ _ answer => answer = .abort
  | requested address _ answer => (Session.readHello address options answer).isOk
  | _ => false

def onLink : Event → Bool
  | opened .. | requested .. | closed _ => true
  | _ => false

end Event

theorem Attempt.onLink_of_mem {options : OpenOptions} {a : Attempt} {e : Event}
    (member : e ∈ a.events options) : e.onLink := by
  obtain ⟨candidate, dropped, greeting⟩ := a
  simp only [events, List.mem_append, List.mem_map] at member
  rcases member with ⟨_, _, rfl⟩ | tried
  · rfl
  · cases greeting with
    | unopened failure =>
        simp only [List.mem_singleton] at tried
        exact tried ▸ rfl
    | answered answer =>
        simp only [List.mem_cons] at tried
        rcases tried with rfl | rfl | last
        · rfl
        · rfl
        · split at last
          · cases last
          · exact List.mem_singleton.mp last ▸ rfl

theorem Round.onLink_of_mem {options : OpenOptions} {r : Round} {e : Event}
    (member : e ∈ r.attempts.flatMap (Attempt.events options)) : e.onLink := by
  obtain ⟨a, _, inner⟩ := List.mem_flatMap.mp member
  exact Attempt.onLink_of_mem inner

namespace Round

variable (filter : Option Transport) (options : OpenOptions) (r : Round)

theorem filterMap_events {α : Type} {f : Event → Option α} (blind : ∀ e, e.onLink → f e = none) :
    (r.events filter options).filterMap f = (f (.enumerated filter r.found)).toList := by
  have silent : (r.attempts.flatMap (Attempt.events options)).filterMap f = [] := by
    refine List.filterMap_eq_nil_iff.mpr ?_
    intro e member
    exact blind e (onLink_of_mem member)
  rw [events, List.filterMap_cons, silent]
  cases f (.enumerated filter r.found) <;> rfl

theorem filterMap_listing :
    (r.events filter options).filterMap Event.listing? = [(filter, r.found)] :=
  filterMap_events filter options r fun e onLink => by
    cases e with
    | enumerated => cases onLink
    | opened | requested | closed | asked | waited => rfl

theorem filterMap_wait : (r.events filter options).filterMap Event.wait? = [] :=
  filterMap_events filter options r fun e onLink => by
    cases e with
    | waited => cases onLink
    | enumerated | opened | requested | closed | asked => rfl

theorem filterMap_question : (r.events filter options).filterMap Event.question? = [] :=
  filterMap_events filter options r fun e onLink => by
    cases e with
    | asked => cases onLink
    | enumerated | opened | requested | closed | waited => rfl

end Round

section
variable (filter : Option Transport) (options : OpenOptions) (delay : Duration) (ending : Ending)

theorem transcript_listings (k : Nat) (rounds : List Round) :
    (transcript filter options delay ending k rounds).filterMap Event.listing? =
      rounds.map fun r => (filter, r.found) := by
  induction rounds generalizing k with
  | nil => cases ending <;> rfl
  | cons r later ih =>
      have lead : (if k = 1 then [] else [Event.waited delay]).filterMap Event.listing? = [] := by
        split <;> rfl
      simp [transcript, List.filterMap_cons, Round.filterMap_listing, ih, lead, Event.listing?]

theorem transcript_waits (k : Nat) (rounds : List Round) :
    (transcript filter options delay ending (k + 2) rounds).filterMap Event.wait? =
      List.replicate rounds.length delay := by
  induction rounds generalizing k with
  | nil => cases ending <;> rfl
  | cons r later ih =>
      simp [transcript, List.filterMap_cons, Round.filterMap_wait, ih (k + 1), Event.wait?,
        List.replicate_succ]

theorem transcript_first_waits (rounds : List Round) :
    (transcript filter options delay ending 1 rounds).filterMap Event.wait? =
      List.replicate (rounds.length - 1) delay := by
  cases rounds with
  | nil => cases ending <;> rfl
  | cons r later =>
      simpa [transcript, List.filterMap_cons, Round.filterMap_wait, Event.wait?] using
        transcript_waits filter options delay ending 0 later

/-- How many questions a call asks: one before each round, and one more if it aborts. -/
def Ending.questions (rounds : Nat) : Ending → Nat
  | aborted => rounds + 1
  | _ => rounds

theorem transcript_questions (k : Nat) (rounds : List Round) :
    (transcript filter options delay ending k rounds).filterMap Event.question? =
      (List.range' k (ending.questions rounds.length)).map fun i => (saturated i, none) := by
  induction rounds generalizing k with
  | nil => cases ending <;> rfl
  | cons r later ih =>
      have lead : (if k = 1 then [] else [Event.waited delay]).filterMap Event.question? = [] := by
        split <;> rfl
      have count : ending.questions (later.length + 1) = ending.questions later.length + 1 := by
        cases ending <;> rfl
      simp [transcript, Round.filterMap_question, ih, lead, Event.question?,
        count, List.range'_succ]

end

/-- No event of the list is one that nothing may follow. -/
def Quiet (options : OpenOptions) (log : List Event) : Prop := ∀ e ∈ log, e.ends options = false

section
variable {options : OpenOptions}

theorem Quiet.append {log log' : List Event} (h : Quiet options log) (h' : Quiet options log') :
    Quiet options (log ++ log') := by
  intro e member
  rcases List.mem_append.mp member with early | late
  · exact h e early
  · exact h' e late

theorem Quiet.dropLast {log : List Event} (h : Quiet options log) : Quiet options log.dropLast :=
  fun e member => h e (List.dropLast_subset log member)

theorem Quiet.append_dropLast {log log' : List Event} (h : Quiet options log)
    (h' : Quiet options log'.dropLast) : Quiet options (log ++ log').dropLast := by
  cases log' with
  | nil => simpa only [List.append_nil] using h.dropLast
  | cons e rest =>
      rw [List.dropLast_append_of_ne_nil (List.cons_ne_nil e rest)]
      exact h.append h'

theorem Attempt.quiet_of_fails {a : Attempt} (fails : a.Fails options) :
    Quiet options (a.events options) := by
  obtain ⟨candidate, dropped, greeting⟩ := a
  obtain ⟨failure, result⟩ := fails
  refine Quiet.append ?_ ?_
  · intro e member
    obtain ⟨_, _, rfl⟩ := List.mem_map.mp member
    rfl
  · cases greeting with
    | unopened e => simp [Quiet, Event.ends]
    | answered answer =>
        change Session.readHello candidate options answer = .error failure at result
        simp [Quiet, Event.ends, result, Except.isOk, Except.toBool]

theorem Attempt.quiet_dropLast (a : Attempt) : Quiet options (a.events options).dropLast := by
  cases result : a.result options with
  | error e => exact (quiet_of_fails ⟨e, result⟩).dropLast
  | ok info =>
      obtain ⟨candidate, dropped, greeting⟩ := a
      refine Quiet.append_dropLast ?_ ?_
      · intro e member
        obtain ⟨_, _, rfl⟩ := List.mem_map.mp member
        rfl
      · cases greeting with
        | unopened e => cases result
        | answered answer =>
            change Session.readHello candidate options answer = .ok info at result
            simp [Quiet, Event.ends, result]

theorem Attempt.quiet_of_all_fail {attempts : List Attempt}
    (all : ∀ a ∈ attempts, a.Fails options) :
    Quiet options (attempts.flatMap (Attempt.events options)) := by
  intro e member
  obtain ⟨a, tried, inner⟩ := List.mem_flatMap.mp member
  exact quiet_of_fails (all a tried) e inner

namespace Round

variable {candidates : List Address} {r : Round}

theorem quiet_of_failed (filter : Option Transport) (tries : Tries options candidates r.attempts)
    {matched : Bool} {e : Option TransportError} (failed : r.outcome options = .failed matched e) :
    Quiet options (r.events filter options) := by
  have all := (tries.all_of_failed (lastResult_of_failed failed)).2
  intro event member
  rcases List.mem_cons.mp member with rfl | later
  · rfl
  · exact Attempt.quiet_of_all_fail all event later

theorem quiet_dropLast (filter : Option Transport) (tries : Tries options candidates r.attempts) :
    Quiet options (r.events filter options).dropLast := by
  cases last : lastResult options (.error none) r.attempts with
  | error e =>
      have failed : r.outcome options = .failed (!r.attempts.isEmpty) e := by simp only [outcome, last]
      exact (quiet_of_failed filter tries failed).dropLast
  | ok info =>
      obtain ⟨earlier, winner, _, split, _, all, _⟩ := tries.winner_of_connected last
      have shape : r.events filter options = (.enumerated filter r.found ::
          earlier.flatMap (Attempt.events options)) ++ winner.events options := by
        simp [events, split]
      rw [shape]
      refine Quiet.append_dropLast ?_ winner.quiet_dropLast
      intro e member
      rcases List.mem_cons.mp member with rfl | early
      · rfl
      · exact Attempt.quiet_of_all_fail all e early

end Round

/-- Only the last action of a course can be one that nothing may follow. -/
theorem Course.quiet_dropLast {retries : Nat} {rounds : List Round} {ending : Ending}
    (course : Course options retries rounds ending) {order : List Address → List Address}
    (follows : ∀ r ∈ rounds, Tries options (order r.found) r.attempts)
    (filter : Option Transport) (delay : Duration) (k : Nat) :
    Quiet options (transcript filter options delay ending k rounds).dropLast := by
  have lead (k : Nat) : Quiet options
      (.asked (saturated k) none .proceed :: if k = 1 then [] else [.waited delay]) := by
    split <;> simp [Quiet, Event.ends]
  induction course generalizing k with
  | aborted => simp [transcript, Ending.events, Quiet]
  | connected _ =>
      rw [transcript, transcript, Ending.events, List.append_nil]
      exact (lead k).append_dropLast (Round.quiet_dropLast filter (follows _ (by simp)))
  | exhausted _ =>
      rw [transcript, transcript, Ending.events, List.append_nil]
      exact (lead k).append_dropLast (Round.quiet_dropLast filter (follows _ (by simp)))
  | again failed _ ih =>
      rw [transcript]
      have quiet := Round.quiet_of_failed filter (follows _ (by simp)) failed
      exact ((lead k).append quiet).append_dropLast
        (ih (fun r later => follows r (List.mem_cons_of_mem _ later)) (k + 1))

theorem Course.length_le {retries : Nat} {rounds : List Round} {ending : Ending}
    (course : Course options retries rounds ending) : rounds.length ≤ retries + 1 := by
  induction course with
  | aborted => simp
  | connected _ => simp
  | exhausted _ => simp
  | again _ _ ih => simpa using ih

end

/-- The next word; the greatest one has none. -/
def successor? (n : UInt32) : Option UInt32 :=
  if n.toNat + 1 < UInt32.size then some (n + 1) else none

theorem successor?_of_lt {n limit : UInt32} (below : n < limit) :
    ∃ next, successor? n = some next ∧ next.toNat = n.toNat + 1 := by
  have small : n.toNat < limit.toNat := UInt32.lt_iff_toNat_lt.mp below
  have bound : limit.toNat < UInt32.size := limit.toNat_lt_size
  refine ⟨n + 1, if_pos (by omega), ?_⟩
  rw [UInt32.toNat_add, UInt32.toNat_one, Nat.mod_eq_of_lt]
  exact Nat.lt_of_le_of_lt small bound

namespace Coordinator

/-- The loop with its counter in a word: the number of rounds behind the one under way. A counter
that cannot be raised would leave the call without a result. -/
def countedRounds (host : Host σ ℓ) (progress : ProgressCallback σ)
    (round : Session ℓ → σ → RoundOutcome × Session ℓ × σ) (policy : RetryPolicy)
    (attempt : UInt32) (matched : Bool) (last : Option TransportError) (session : Session ℓ)
    (world : σ) : Option (Except ConnectError Connected × Session ℓ × σ) :=
  match round session world with
  | (.connected info, session, world) =>
    some (.ok ⟨info, saturated (attempt.toNat + 1)⟩, session, world)
  | (.failed matchedNow error, session, world) =>
    let matched := matched || matchedNow
    let last := error.or last
    if h : policy.maxAttempts ≤ attempt then
      some (.error (exhausted (saturated (attempt.toNat + 1)) matched last), session, world)
    else
      match progress (saturated (attempt.toNat + 2)) none world with
      | (.abort, world) =>
        some (.error (.aborted (saturated (attempt.toNat + 1))), session, world)
      | (.proceed, world) =>
        match _raised : successor? attempt with
        | none => none
        | some next =>
          countedRounds host progress round policy next matched last session
            (host.wait policy.delay world)
  termination_by policy.maxAttempts.toNat - attempt.toNat
  decreasing_by
    obtain ⟨_, same, value⟩ := successor?_of_lt (UInt32.not_le.mp h)
    rw [_raised] at same
    cases same
    have small := UInt32.lt_iff_toNat_lt.mp (UInt32.not_le.mp h)
    omega

/-- A counter that has not passed the limit counts down what the loop counts down, and is never
raised past the greatest word. -/
theorem countedRounds_eq (host : Host σ ℓ) (progress : ProgressCallback σ)
    (round : Session ℓ → σ → RoundOutcome × Session ℓ × σ) (policy : RetryPolicy)
    (attempt : UInt32) (matched : Bool) (last : Option TransportError) (session : Session ℓ)
    (world : σ) (within : attempt ≤ policy.maxAttempts) :
    countedRounds host progress round policy attempt matched last session world =
      some (runRounds host progress round policy.delay
        (policy.maxAttempts.toNat - attempt.toNat) attempt.toNat matched last session world) := by
  fun_induction countedRounds host progress round policy attempt matched last session world
  case case1 attempt matched last session world info session' world' connected =>
    unfold runRounds
    rw [connected]
  case case2 attempt matched last session world now e session' world' failed matched' last' done =>
    have spent : policy.maxAttempts.toNat - attempt.toNat = 0 :=
      Nat.sub_eq_zero_of_le (UInt32.le_iff_toNat_le.mp done)
    rw [spent]
    unfold runRounds
    rw [failed]
  case case3 attempt matched last session world now e session' world' failed left world'' answer =>
    have small := UInt32.lt_iff_toNat_lt.mp (UInt32.not_le.mp left)
    obtain ⟨retries, same⟩ := Nat.exists_eq_add_one.mpr (Nat.sub_pos_of_lt small)
    rw [same]
    unfold runRounds
    simp only [failed, answer]
  case case4 attempt matched last session world now e session' world' failed left world'' answer
      stuck =>
    obtain ⟨_, raised, _⟩ := successor?_of_lt (UInt32.not_le.mp left)
    rw [stuck] at raised
    cases raised
  case case5 attempt matched last session world now e session' world' failed matched' last' left
      world'' answer next raised ih =>
    have small := UInt32.lt_iff_toNat_lt.mp (UInt32.not_le.mp left)
    obtain ⟨_, same, value⟩ := successor?_of_lt (UInt32.not_le.mp left)
    rw [raised] at same
    cases same
    have remaining : policy.maxAttempts.toNat - attempt.toNat =
        (policy.maxAttempts.toNat - next.toNat) + 1 := by omega
    rw [remaining]
    unfold runRounds
    simp only [failed, answer]
    rw [ih (UInt32.le_iff_toNat_le.mpr (by omega)), value]

end Coordinator

/-- The number of rounds a result reports. -/
def reportedAttempts : Except ConnectError Connected → UInt32
  | .ok connected => connected.attempts
  | .error e => e.attempts

theorem Ending.reportedAttempts_report (ending : Ending) (performed : Nat)
    (seen : Bool × Option TransportError) :
    reportedAttempts (ending.report performed seen) = saturated performed := by
  obtain ⟨matched, last⟩ := seen
  cases ending with
  | connected info => rfl
  | aborted => rfl
  | exhausted => cases last <;> cases matched <;> rfl

/-- What a log says of a call: the order of its actions, where it was cut, and the counts. -/
structure Scheduled (c : Coordinator (Address × ℓ)) (spec : Address) (policy : RetryPolicy)
    (rounds : List Round) (ending : Ending) (log : List Event)
    (result : Except ConnectError Connected) : Prop where
  /-- Question, round, question, wait, round, question, wait, round, and so on. -/
  order : log = transcript spec.transport c.options policy.delay ending 1 rounds
  /-- The first of: an answer that aborts, a round that connects, the last round allowed. -/
  cut : Course c.options policy.maxAttempts.toNat rounds ending
  follows : ∀ r ∈ rounds, Tries c.options
    (Coordinator.tryOrder c.blacklist (if spec.isAny then c.affinity else none) spec r.found)
    r.attempts
  rounds_le : rounds.length ≤ policy.maxAttempts.toNat + 1
  enumerations : log.filterMap Event.listing? = rounds.map fun r => (spec.transport, r.found)
  waits : log.filterMap Event.wait? = List.replicate (rounds.length - 1) policy.delay
  questions : log.filterMap Event.question? =
    (List.range' 1 (ending.questions rounds.length)).map fun k => (saturated k, none)
  last : ∀ e ∈ log.dropLast, e.ends c.options = false
  report : ∃ seen, result = ending.report rounds.length seen
  attempts : reportedAttempts result = saturated rounds.length

/-- A call of `connectTo` is always scheduled so, its log is that of the run without a log, and its
counter never passes the greatest word. -/
theorem connectTo_scheduled (host : Host σ ℓ) (spec : Address) (policy : RetryPolicy)
    (progress : ProgressCallback σ) (c : Coordinator (Address × ℓ)) (w : σ) :
    let run := c.connectTo host.traced spec policy progress.traced (w, [])
    (∃ rounds ending, Scheduled c spec policy rounds ending run.2.2.2 run.1) ∧
      (c.mapLink Prod.snd).connectTo host spec policy progress w =
        (run.1, run.2.1.mapLink Prod.snd, run.2.2.1) ∧
      ∀ round s v, Coordinator.countedRounds host progress round policy 0 false none s v =
        some (Coordinator.runRounds host progress round policy.delay policy.maxAttempts.toNat 0
          false none s v) := by
  refine ⟨?_, ?_, fun round s v => ?_⟩
  · obtain ⟨rounds, ending, cut, follows, report, written⟩ :=
      Coordinator.connectTo_traced host spec policy progress c (w, [])
    rw [List.nil_append] at written
    exact ⟨rounds, ending, {
      order := written
      cut
      follows
      rounds_le := cut.length_le
      enumerations := written ▸ transcript_listings _ _ _ _ 1 rounds
      waits := written ▸ transcript_first_waits _ _ _ _ rounds
      questions := written ▸ transcript_questions _ _ _ _ 1 rounds
      last := written ▸ cut.quiet_dropLast follows _ _ 1
      report := ⟨_, report⟩
      attempts := report ▸ ending.reportedAttempts_report _ _ }⟩
  · exact Coordinator.connectTo_simulated host.traced_simulates progress.traced_simulates spec
      policy c (w, [])
  · exact Coordinator.countedRounds_eq host progress round policy 0 false none s v
      (UInt32.le_iff_toNat_le.mpr (Nat.zero_le _))

end DeviceConnect
