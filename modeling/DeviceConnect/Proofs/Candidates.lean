import DeviceConnect.Proofs.Schedule
import DeviceConnect.Proofs.Session

/-! Which candidates a call opens. Only what the round's own listing showed, the specification
selects and the blacklist does not hold; each as often as it was listed; in the order of the
round; and none behind the one that connects. -/
namespace DeviceConnect

variable {σ ℓ : Type}

namespace Coordinator

theorem preferredFirst_perm (preferred : Option Affinity) (candidates : List Address) :
    (preferredFirst preferred candidates).Perm candidates := by
  cases preferred with
  | none => exact List.Perm.refl candidates
  | some affinity => exact List.filter_append_perm affinity.prefers candidates

theorem tryOrder_perm (blacklist : Blacklist) (preferred : Option Affinity) (spec : Address)
    (found : List Address) :
    (tryOrder blacklist preferred spec found).Perm (found.filter (isEligible blacklist spec)) :=
  preferredFirst_perm preferred _

theorem mem_tryOrder {blacklist : Blacklist} {preferred : Option Affinity} {spec a : Address}
    {found : List Address} (member : a ∈ tryOrder blacklist preferred spec found) :
    a ∈ found ∧ isEligible blacklist spec a :=
  List.mem_filter.mp ((tryOrder_perm blacklist preferred spec found).mem_iff.mp member)

theorem isEligible_iff (blacklist : Blacklist) (spec a : Address) :
    isEligible blacklist spec a ↔
      a.isFull ∧ spec.selects a ∧ a.format ∉ blacklist.entries := by
  have full : spec.selects a = true → a.isFull = true := by
    intro selects
    simp only [Address.selects, Bool.and_eq_true] at selects
    exact selects.1.1
  simp only [isEligible, Blacklist.contains, Bool.and_eq_true, Bool.not_eq_true',
    decide_eq_false_iff_not]
  constructor
  · rintro ⟨absent, selects⟩
    exact ⟨full selects, selects, absent⟩
  · rintro ⟨_, selects, absent⟩
    exact ⟨absent, selects⟩

/-- The candidates of a round of a call, given what the round listed. -/
def candidates (c : Coordinator ℓ) (spec : Address) (found : List Address) : List Address :=
  tryOrder c.blacklist (if spec.isAny then c.affinity else none) spec found

end Coordinator

def Event.opened? : Event → Option Address
  | opened address _ => some address
  | _ => none

def Round.opened (r : Round) : List Address := r.attempts.map Attempt.candidate

theorem Attempt.filterMap_opened (options : OpenOptions) (a : Attempt) :
    (a.events options).filterMap Event.opened? = [a.candidate] := by
  obtain ⟨candidate, dropped, greeting⟩ := a
  have closing : (dropped.toList.map Event.closed).filterMap Event.opened? = [] := by
    cases dropped <;> rfl
  rw [events, List.filterMap_append, closing, List.nil_append]
  cases greeting with
  | unopened e => rfl
  | answered answer =>
      dsimp only
      split <;> rfl

theorem Round.filterMap_opened (filter : Option Transport) (options : OpenOptions) (r : Round) :
    (r.events filter options).filterMap Event.opened? = r.opened := by
  simp only [events, List.filterMap_cons, Event.opened?, List.filterMap_flatMap,
    Attempt.filterMap_opened, opened]
  exact List.map_eq_flatMap.symm

theorem transcript_opened (filter : Option Transport) (options : OpenOptions) (delay : Duration)
    (ending : Ending) (k : Nat) (rounds : List Round) :
    (transcript filter options delay ending k rounds).filterMap Event.opened? =
      rounds.flatMap Round.opened := by
  induction rounds generalizing k with
  | nil => cases ending <;> rfl
  | cons r later ih =>
      have lead : (if k = 1 then [] else [Event.waited delay]).filterMap Event.opened? = [] := by
        split <;> rfl
      simp [transcript, List.filterMap_cons, Round.filterMap_opened, ih, lead, Event.opened?]

section
variable {options : OpenOptions} {candidates : List Address}

theorem Tries.initial {attempts : List Attempt} (tries : Tries options candidates attempts) :
    attempts.map Attempt.candidate <+: candidates := by
  induction tries with
  | done => exact List.prefix_rfl
  | connected _ => simp
  | failed _ _ ih => exact (List.prefix_cons_inj _).mpr ih

theorem Course.winner {retries : Nat} {rounds : List Round} {ending : Ending}
    (course : Course options retries rounds ending) {info : ConnectionInfo}
    (connected : ending = .connected info) :
    ∃ earlier last, rounds = earlier ++ [last] ∧
      (∀ r ∈ earlier, ∃ matched e, r.outcome options = .failed matched e) ∧
      last.outcome options = .connected info := by
  induction course with
  | aborted => cases connected
  | exhausted _ => cases connected
  | @connected _ r _ outcome =>
      cases connected
      exact ⟨[], r, rfl, by simp, outcome⟩
  | @again _ r _ _ _ _ outcome _ ih =>
      obtain ⟨earlier, last, rfl, failed, won⟩ := ih connected
      exact ⟨r :: earlier, last, rfl, List.forall_mem_cons.mpr ⟨⟨_, _, outcome⟩, failed⟩, won⟩

/-- The rounds behind a connection: those before the last opened all they might, in vain, and the
last one went through its candidates up to the winner. -/
structure WonBy (options : OpenOptions) (order : List Address → List Address)
    (earlier : List Round) (last : Round) (info : ConnectionInfo) : Prop where
  spent : ∀ r ∈ earlier, r.opened = order r.found ∧ ∀ a ∈ r.attempts, a.Fails options
  won : ∃ failed winner untried, last.attempts = failed ++ [winner] ∧
    order last.found = failed.map Attempt.candidate ++ winner.candidate :: untried ∧
    (∀ a ∈ failed, a.Fails options) ∧ winner.result options = .ok info ∧
    info.address = winner.candidate

theorem Attempt.address_of_ok {a : Attempt} {info : ConnectionInfo}
    (connects : a.result options = .ok info) : info.address = a.candidate := by
  obtain ⟨candidate, dropped, greeting⟩ := a
  cases greeting with
  | unopened e => cases connects
  | answered answer => exact (Session.accepted_of_readHello connects).1

theorem Course.wonBy {retries : Nat} {rounds : List Round} {info : ConnectionInfo}
    (course : Course options retries rounds (.connected info)) {order : List Address → List Address}
    (follows : ∀ r ∈ rounds, Tries options (order r.found) r.attempts) :
    ∃ earlier last, rounds = earlier ++ [last] ∧ WonBy options order earlier last info := by
  obtain ⟨earlier, last, rfl, failed, connects⟩ := course.winner rfl
  refine ⟨earlier, last, rfl, fun r early => ?_, ?_⟩
  · obtain ⟨matched, e, outcome⟩ := failed r early
    exact (follows r (List.mem_append_left _ early)).all_of_failed (Round.lastResult_of_failed outcome)
  · have tries := follows last (by simp)
    obtain ⟨tried, winner, untried, attempts, listed, all, result⟩ :=
      tries.winner_of_connected (Round.lastResult_of_connected connects)
    exact ⟨tried, winner, untried, attempts, listed, all, result, Attempt.address_of_ok result⟩

theorem Ending.connected_of_report {ending : Ending} {performed : Nat}
    {seen : Bool × Option TransportError} {connected : Connected}
    (h : ending.report performed seen = .ok connected) : ending = .connected connected.info := by
  cases ending with
  | connected info =>
      cases h
      rfl
  | aborted => cases h
  | exhausted => cases h

end

/-- What a log says of the openings of a call. -/
structure OpensEligible (c : Coordinator (Address × ℓ)) (spec : Address) (rounds : List Round)
    (log : List Event) (result : Except ConnectError Connected) : Prop where
  listings : log.filterMap Event.listing? = rounds.map fun r => (spec.transport, r.found)
  /-- A call opens what its rounds open, and nothing else. -/
  opens : log.filterMap Event.opened? = rounds.flatMap Round.opened
  order : ∀ r ∈ rounds, r.opened <+: c.candidates spec r.found
  /-- A round opens only what its own listing showed. -/
  admitted : ∀ r ∈ rounds, ∀ a ∈ r.opened,
    a ∈ r.found ∧ a.isFull ∧ spec.selects a ∧ a.format ∉ c.blacklist.entries
  /-- A round that opens its whole order opens all that is eligible, as often as it was listed. -/
  complete : ∀ found, (c.candidates spec found).Perm
    (found.filter fun a => a.isFull ∧ spec.selects a ∧ a.format ∉ c.blacklist.entries)
  connected : ∀ connected, result = .ok connected → ∃ earlier last, rounds = earlier ++ [last] ∧
    WonBy c.options (c.candidates spec) earlier last connected.info

/-- A call of `connectTo` always opens so, and its log is that of the run without a log. -/
theorem connectTo_opens_eligible (host : Host σ ℓ) (spec : Address) (policy : RetryPolicy)
    (progress : ProgressCallback σ) (c : Coordinator (Address × ℓ)) (w : σ) :
    let run := c.connectTo host.traced spec policy progress.traced (w, [])
    (∃ rounds ending,
      run.2.2.2 = transcript spec.transport c.options policy.delay ending 1 rounds ∧
      OpensEligible c spec rounds run.2.2.2 run.1) ∧
      (c.mapLink Prod.snd).connectTo host spec policy progress w =
        (run.1, run.2.1.mapLink Prod.snd, run.2.2.1) := by
  refine ⟨?_, ?_⟩
  · obtain ⟨rounds, ending, course, follows, report, written⟩ :=
      Coordinator.connectTo_traced host spec policy progress c (w, [])
    rw [List.nil_append] at written
    refine ⟨rounds, ending, written, {
      listings := written ▸ transcript_listings _ _ _ _ 1 rounds
      opens := written ▸ transcript_opened _ _ _ _ 1 rounds
      order := fun r round => (follows r round).initial
      admitted := fun r round a opened => ?_
      complete := fun found => ?_
      connected := fun connected result => ?_ }⟩
    · have listed := Coordinator.mem_tryOrder ((follows r round).initial.subset opened)
      exact ⟨listed.1, (Coordinator.isEligible_iff _ _ _).mp listed.2⟩
    · have eligible : found.filter (Coordinator.isEligible c.blacklist spec) =
          found.filter fun a => a.isFull ∧ spec.selects a ∧ a.format ∉ c.blacklist.entries := by
        refine List.filter_congr fun a _ => Bool.eq_iff_iff.mpr ?_
        rw [decide_eq_true_iff]
        exact Coordinator.isEligible_iff c.blacklist spec a
      exact eligible ▸ Coordinator.tryOrder_perm c.blacklist _ spec found
    · obtain rfl := Ending.connected_of_report (report.symm.trans result)
      exact course.wonBy follows
  · exact Coordinator.connectTo_simulated host.traced_simulates progress.traced_simulates spec
      policy c (w, [])

end DeviceConnect
