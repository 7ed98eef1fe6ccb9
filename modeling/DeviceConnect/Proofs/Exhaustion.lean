import DeviceConnect.Proofs.Candidates

/-! How a call ends that has used up its rounds. Whether there was a candidate and what the last
error was are carried along separately; both depend on the attempts of the whole call alone, so
rounds without candidates erase nothing. -/
namespace DeviceConnect

variable {σ ℓ : Type} {options : OpenOptions}

/-- The error of the last of some attempts, if there was one and it failed. -/
def lastError (options : OpenOptions) (attempts : List Attempt) : Option TransportError :=
  attempts.getLast?.bind fun a => failure? (a.result options)

theorem lastError_nil : lastError options [] = none := rfl

theorem lastError_concat {a : Attempt} {e : TransportError} (failed : a.result options = .error e)
    (earlier : List Attempt) : lastError options (earlier ++ [a]) = some e := by
  simp only [lastError, List.getLast?_concat, Option.bind_some, failed, failure?]

theorem exists_last_of_fails {attempts : List Attempt} (some_ : attempts ≠ [])
    (all : ∀ a ∈ attempts, a.Fails options) :
    ∃ earlier a e, attempts = earlier ++ [a] ∧ a.result options = .error e := by
  obtain ⟨e, failed⟩ := all _ (List.getLast_mem some_)
  exact ⟨attempts.dropLast, _, e, (List.dropLast_concat_getLast some_).symm, failed⟩

theorem lastError_append (earlier : List Attempt) {later : List Attempt}
    (all : ∀ a ∈ later, a.Fails options) :
    lastError options (earlier ++ later) =
      (lastError options later).or (lastError options earlier) := by
  by_cases empty : later = []
  · rw [empty, List.append_nil, lastError_nil, Option.none_or]
  · obtain ⟨front, a, e, rfl, failed⟩ := exists_last_of_fails empty all
    rw [← List.append_assoc, lastError_concat failed, lastError_concat failed, Option.some_or]

theorem lastResult_of_all_fail {attempts : List Attempt} (all : ∀ a ∈ attempts, a.Fails options)
    (last : Option TransportError) :
    lastResult options (.error last) attempts = .error ((lastError options attempts).or last) := by
  induction attempts generalizing last with
  | nil => rfl
  | cons a later ih =>
      obtain ⟨⟨e, failed⟩, others⟩ := List.forall_mem_cons.mp all
      have whole : lastError options (a :: later) = (lastError options later).or (some e) := by
        rw [← List.singleton_append, lastError_append [a] others]
        exact congrArg _ (lastError_concat failed [])
      rw [lastResult, failed]
      simp only [Except.mapError]
      rw [ih others, whole, Option.or_assoc, Option.some_or]

theorem Round.outcome_of_all_fail {r : Round} (all : ∀ a ∈ r.attempts, a.Fails options) :
    r.outcome options = .failed (!r.attempts.isEmpty) (lastError options r.attempts) := by
  simp only [outcome, lastResult_of_all_fail all, Option.or_none]

/-- Both notes are set by attempts: whether there was one, and the error of the last one. -/
theorem foldl_noted_of_all_fail {rounds : List Round}
    (all : ∀ r ∈ rounds, ∀ a ∈ r.attempts, a.Fails options) (matched : Bool)
    (attempts : List Attempt) :
    rounds.foldl (noted options) (matched, lastError options attempts) =
      (matched || !(rounds.flatMap Round.attempts).isEmpty,
        lastError options (attempts ++ rounds.flatMap Round.attempts)) := by
  induction rounds generalizing matched attempts with
  | nil => simp
  | cons r later ih =>
      obtain ⟨here, others⟩ := List.forall_mem_cons.mp all
      have step : noted options (matched, lastError options attempts) r =
          (matched || !r.attempts.isEmpty, lastError options (attempts ++ r.attempts)) := by
        simp only [noted, Round.outcome_of_all_fail here, lastError_append attempts here]
      have either : (!(r.attempts ++ later.flatMap Round.attempts).isEmpty) =
          (!r.attempts.isEmpty || !(later.flatMap Round.attempts).isEmpty) := by
        cases r.attempts <;> rfl
      rw [List.foldl_cons, step, ih others, List.flatMap_cons, List.append_assoc, either,
        Bool.or_assoc]

/-- All rounds that the policy allows were performed, and no attempt connected. -/
def Spent (options : OpenOptions) (policy : RetryPolicy) (rounds : List Round) : Prop :=
  rounds.length = policy.maxAttempts.toNat + 1 ∧
    ∀ r ∈ rounds, ∀ a ∈ r.attempts, a.Fails options

theorem Round.not_all_fail_of_connected {r : Round} {info : ConnectionInfo}
    (connected : r.outcome options = .connected info) : ¬ ∀ a ∈ r.attempts, a.Fails options := by
  intro all
  rw [outcome_of_all_fail all] at connected
  cases connected

/-- Neither a connection nor an answer that aborts lets a call use up its rounds. -/
theorem Course.exhausted_iff {retries : Nat} {rounds : List Round} {ending : Ending}
    (course : Course options retries rounds ending) (order : List Address → List Address)
    (follows : ∀ r ∈ rounds, Tries options (order r.found) r.attempts) :
    ending = .exhausted ↔
      rounds.length = retries + 1 ∧ ∀ r ∈ rounds, ∀ a ∈ r.attempts, a.Fails options := by
  induction course with
  | aborted => simp
  | connected outcome =>
      refine iff_of_false (by simp) ?_
      rintro ⟨_, all⟩
      exact Round.not_all_fail_of_connected outcome (all _ List.mem_cons_self)
  | exhausted outcome =>
      have all := ((follows _ List.mem_cons_self).all_of_failed
        (Round.lastResult_of_failed outcome)).2
      simpa using all
  | again outcome _ ih =>
      obtain ⟨here, others⟩ := List.forall_mem_cons.mp follows
      have all := (here.all_of_failed (Round.lastResult_of_failed outcome)).2
      rw [ih others, List.length_cons, Nat.add_right_cancel_iff, List.forall_mem_cons]
      exact and_congr_right fun _ => (and_iff_right all).symm

namespace Coordinator

theorem candidates_eq_nil_iff (c : Coordinator ℓ) (spec : Address) (found : List Address) :
    c.candidates spec found = [] ↔
      ∀ a ∈ found, ¬ (spec.selects a ∧ a.format ∉ c.blacklist.entries) := by
  have perm := tryOrder_perm c.blacklist (if spec.isAny then c.affinity else none) spec found
  have empty : c.candidates spec found = [] ↔ found.filter (isEligible c.blacklist spec) = [] :=
    ⟨fun none => (none ▸ perm : List.Perm [] _).nil_eq.symm, fun none => (none ▸ perm).eq_nil⟩
  rw [empty, List.filter_eq_nil_iff]
  refine forall₂_congr fun a _ => not_congr ?_
  simp [isEligible, Blacklist.contains, and_comm]

end Coordinator

theorem attempts_eq_nil_iff {c : Coordinator ℓ} {spec : Address} {rounds : List Round}
    (follows : ∀ r ∈ rounds, Tries options (c.candidates spec r.found) r.attempts)
    (all : ∀ r ∈ rounds, ∀ a ∈ r.attempts, a.Fails options) :
    rounds.flatMap Round.attempts = [] ↔
      ∀ r ∈ rounds, ∀ a ∈ r.found, ¬ (spec.selects a ∧ a.format ∉ c.blacklist.entries) := by
  rw [List.flatMap_eq_nil_iff]
  refine forall₂_congr fun r round => ?_
  have order : r.attempts.map Attempt.candidate = c.candidates spec r.found :=
    ((follows r round).all_of_failed (lastResult_of_all_fail (all r round) none)).1
  rw [← c.candidates_eq_nil_iff, ← order, List.map_eq_nil_iff]

theorem exhausted_cases {attempts : List Attempt} (all : ∀ a ∈ attempts, a.Fails options)
    (n : UInt32) :
    (attempts = [] ∧
      Coordinator.exhausted n (!attempts.isEmpty) (lastError options attempts) = .noCandidates n) ∨
    ∃ earlier a e, attempts = earlier ++ [a] ∧ a.result options = .error e ∧
      Coordinator.exhausted n (!attempts.isEmpty) (lastError options attempts) = .transport n e := by
  by_cases empty : attempts = []
  · subst empty
    exact .inl ⟨rfl, rfl⟩
  · obtain ⟨earlier, a, e, split, failed⟩ := exists_last_of_fails empty all
    refine .inr ⟨earlier, a, e, split, failed, ?_⟩
    rw [split, lastError_concat failed]
    simp [Coordinator.exhausted]

theorem report_of_spent {c : Coordinator ℓ} {spec : Address} {policy : RetryPolicy}
    {rounds : List Round}
    (follows : ∀ r ∈ rounds, Tries options (c.candidates spec r.found) r.attempts)
    (spent : Spent options policy rounds) (n : Nat) :
    let report := Ending.exhausted.report n (rounds.foldl (noted options) (false, none))
    ((∀ r ∈ rounds, ∀ a ∈ r.found, ¬ (spec.selects a ∧ a.format ∉ c.blacklist.entries)) ∧
      report = .error (.noCandidates (saturated n))) ∨
    ((∃ r ∈ rounds, ∃ a ∈ r.found, spec.selects a ∧ a.format ∉ c.blacklist.entries) ∧
      ∃ earlier last e, rounds.flatMap Round.attempts = earlier ++ [last] ∧
        last.result options = .error e ∧ report = .error (.transport (saturated n) e)) := by
  have failing : ∀ a ∈ rounds.flatMap Round.attempts, a.Fails options := by
    intro a member
    obtain ⟨r, round, tried⟩ := List.mem_flatMap.mp member
    exact spent.2 r round a tried
  have notes := foldl_noted_of_all_fail spent.2 false []
  rw [lastError_nil, List.nil_append, Bool.false_or] at notes
  rw [notes]
  have untried := attempts_eq_nil_iff follows spent.2
  rcases exhausted_cases failing (saturated n) with
    ⟨empty, said⟩ | ⟨earlier, a, e, split, failed, said⟩
  · exact .inl ⟨untried.mp empty, congrArg Except.error said⟩
  · refine .inr ⟨?_, earlier, a, e, split, failed, congrArg Except.error said⟩
    by_contra none
    have empty := untried.mpr fun r round a listed eligible => none ⟨r, round, a, listed, eligible⟩
    rw [split] at empty
    exact List.append_ne_nil_of_right_ne_nil earlier (List.cons_ne_nil a []) empty

theorem Ending.exhausted_of_report {ending : Ending} {performed : Nat}
    {seen : Bool × Option TransportError} {n : UInt32}
    (reported : ending.report performed seen = .error (.noCandidates n) ∨
      ∃ e, ending.report performed seen = .error (.transport n e)) : ending = .exhausted := by
  cases ending with
  | exhausted => rfl
  | connected info => rcases reported with h | ⟨e, h⟩ <;> cases h
  | aborted => rcases reported with h | ⟨e, h⟩ <;> cases h

structure ReportsExhaustion (c : Coordinator (Address × ℓ)) (spec : Address) (policy : RetryPolicy)
    (rounds : List Round) (log : List Event) (result : Except ConnectError Connected) : Prop where
  listings : log.filterMap Event.listing? = rounds.map fun r => (spec.transport, r.found)
  opens : log.filterMap Event.opened? = (rounds.flatMap Round.attempts).map Attempt.candidate
  spent_iff : Spent c.options policy rounds ↔
    ∃ n, result = .error (.noCandidates n) ∨ ∃ e, result = .error (.transport n e)
  noCandidates : Spent c.options policy rounds →
    ((∃ n, result = .error (.noCandidates n)) ↔
      ∀ r ∈ rounds, ∀ a ∈ r.found, ¬ (spec.selects a ∧ a.format ∉ c.blacklist.entries))
  /-- The error is that of the last attempt of all, however many rounds came behind it. -/
  transport : Spent c.options policy rounds →
    (∃ r ∈ rounds, ∃ a ∈ r.found, spec.selects a ∧ a.format ∉ c.blacklist.entries) →
    ∃ earlier last e, rounds.flatMap Round.attempts = earlier ++ [last] ∧
      last.result c.options = .error e ∧
      result = .error (.transport (saturated rounds.length) e)

theorem connectTo_reports_exhaustion (host : Host σ ℓ) (spec : Address) (policy : RetryPolicy)
    (progress : ProgressCallback σ) (c : Coordinator (Address × ℓ)) (w : σ) :
    let run := c.connectTo host.traced spec policy progress.traced (w, [])
    (∃ rounds ending,
      run.2.2.2 = transcript spec.transport c.options policy.delay ending 1 rounds ∧
      ReportsExhaustion c spec policy rounds run.2.2.2 run.1) ∧
      (c.mapLink Prod.snd).connectTo host spec policy progress w =
        (run.1, run.2.1.mapLink Prod.snd, run.2.2.1) := by
  intro run
  refine ⟨?_, ?_⟩
  · obtain ⟨rounds, ending, course, follows, report, written⟩ :=
      Coordinator.connectTo_traced host spec policy progress c (w, [])
    rw [List.nil_append] at written
    have spent : ending = .exhausted ↔ Spent c.options policy rounds :=
      course.exhausted_iff (c.candidates spec) follows
    have outcomes (done : Spent c.options policy rounds) :=
      report_of_spent follows done rounds.length
    have ended (done : Spent c.options policy rounds) :
        run.1 = Ending.exhausted.report rounds.length
          (rounds.foldl (noted c.options) (false, none)) :=
      report.trans (congrArg (Ending.report _ _) (spent.mpr done))
    refine ⟨rounds, ending, written, {
      listings := written ▸ transcript_listings _ _ _ _ 1 rounds
      opens := ?_
      spent_iff := ⟨fun done => ?_, fun reported => ?_⟩
      noCandidates := fun done => ?_
      transport := fun done candidate => ?_ }⟩
    · rw [written, transcript_opened, List.map_flatMap]
      rfl
    · rw [ended done]
      rcases outcomes done with ⟨_, said⟩ | ⟨_, _, _, e, _, _, said⟩
      · exact ⟨_, .inl said⟩
      · exact ⟨_, .inr ⟨e, said⟩⟩
    · obtain ⟨n, reported⟩ := reported
      rw [report] at reported
      exact spent.mp (Ending.exhausted_of_report reported)
    · rw [ended done]
      rcases outcomes done with
        ⟨none, said⟩ | ⟨⟨r, round, a, listed, eligible⟩, _, _, _, _, _, said⟩
      · exact iff_of_true ⟨_, said⟩ none
      · refine iff_of_false ?_ fun none => none r round a listed eligible
        rintro ⟨n, same⟩
        cases said.symm.trans same
    · rw [ended done]
      rcases outcomes done with ⟨none, _⟩ | ⟨_, last⟩
      · obtain ⟨r, round, a, listed, eligible⟩ := candidate
        exact absurd eligible (none r round a listed)
      · exact last
  · exact Coordinator.connectTo_simulated host.traced_simulates progress.traced_simulates spec
      policy c (w, [])

end DeviceConnect
