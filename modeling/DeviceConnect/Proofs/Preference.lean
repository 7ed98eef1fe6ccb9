import DeviceConnect.Proofs.Exhaustion
import DeviceConnect.Proofs.Isolation
import DeviceConnect.Proofs.Selection

/-! Which device goes first. Over a whole run a coordinator remembers the device of its last
connection, always by a full address; so the remembered address selects itself alone. A call that
leaves everything open tries what looks like that device before the rest, and sorts nothing else. -/
namespace DeviceConnect

variable {σ ℓ φ : Type}

/-! ### Sorting by a mark -/

section
variable {α : Type} (p : α → Bool)

/-- Nothing that is marked stands behind something that is not. -/
def markedFirst (a b : α) : Bool := p a || !p b

theorem markedFirst_trans (a b c : α) (first : markedFirst p a b = true)
    (second : markedFirst p b c = true) : markedFirst p a c = true := by
  revert first second
  unfold markedFirst
  cases p a <;> cases p b <;> cases p c <;> decide

theorem markedFirst_total (a b : α) : (markedFirst p a b || markedFirst p b a) = true := by
  unfold markedFirst
  cases p a <;> cases p b <;> decide

theorem filter_append_filter_not {l : List α} (sorted : l.Pairwise (markedFirst p · ·)) :
    l.filter p ++ l.filter (fun a => !p a) = l := by
  induction sorted with
  | nil => rfl
  | @cons a l first _ ih =>
      cases here : p a with
      | true => simp [here, ih]
      | false =>
          have unmarked : l.filter p = [] := by
            refine List.filter_eq_nil_iff.mpr fun b member => ?_
            simpa [markedFirst, here] using first b member
          rw [unmarked, List.nil_append] at ih
          simp [here, unmarked, ih]

/-- The sort is stable: a group of which nothing has to stand before anything else is left as it is. -/
theorem filter_mergeSort {q : α → Bool} (l : List α)
    (tied : ∀ a b, q a = true → q b = true → markedFirst p a b = true) :
    (l.mergeSort (markedFirst p)).filter q = l.filter q := by
  have group : (l.filter q).Pairwise (markedFirst p · ·) := by
    refine List.pairwise_of_forall_mem_list fun a member b member' => ?_
    exact tied a b (List.of_mem_filter member) (List.of_mem_filter member')
  have kept := (List.sublist_mergeSort (markedFirst_trans p) (markedFirst_total p) group
    List.filter_sublist).filter q
  rw [List.filter_filter, List.filter_congr fun a _ => Bool.and_self (q a)] at kept
  have same := ((List.mergeSort_perm l (markedFirst p)).filter q).length_eq
  exact (kept.eq_of_length same.symm).symm

theorem mergeSort_markedFirst (l : List α) :
    l.mergeSort (markedFirst p) = l.filter p ++ l.filter fun a => !p a := by
  have sorted := List.pairwise_mergeSort (markedFirst_trans p) (markedFirst_total p) l
  rw [← filter_append_filter_not p sorted]
  congr 1
  · refine filter_mergeSort p l fun a b marked _ => ?_
    rw [markedFirst, marked, Bool.true_or]
  · refine filter_mergeSort p l fun a b _ unmarked => ?_
    rw [markedFirst, unmarked, Bool.or_true]

end

/-! ### What a run remembers -/

def Affinity.ofConnection (info : ConnectionInfo) : Affinity := ⟨info.address, info.serialNumber⟩

def Coordinator.Operation.connection? (host : Host σ ℓ) (op : Operation σ) (m : Moment σ ℓ φ) :
    Option ConnectionInfo :=
  match op with
  | .connect spec policy progress =>
    (m.coordinator.connect host spec policy progress m.world).1.toOption.map Connected.info
  | .connectTo spec policy progress =>
    (m.coordinator.connectTo host spec policy progress m.world).1.toOption.map Connected.info
  | _ => none

/-- What can be done with a coordinator: an operation, or anything at all to what it lends out, its
session and its blacklist. -/
inductive Use (σ ℓ φ : Type) where
  | operation (op : Coordinator.Operation σ)
  | lent (session : Session ℓ) (blacklist : Blacklist) (world : σ) (files : φ)

def Use.connection? (host : Host σ ℓ) (m : Moment σ ℓ φ) : Use σ ℓ φ → Option ConnectionInfo
  | .operation op => op.connection? host m
  | .lent .. => none

namespace Moment

def use (host : Host σ ℓ) (probe : Address → σ → Bool × σ) (disk : Disk φ) (m : Moment σ ℓ φ) :
    Use σ ℓ φ → Moment σ ℓ φ
  | .operation op => m.perform host probe disk op
  | .lent session blacklist world files =>
    ⟨{ m.coordinator with session, blacklist }, world, files⟩

/-- The connections that some uses made, in their order. -/
def connections (host : Host σ ℓ) (probe : Address → σ → Bool × σ) (disk : Disk φ) :
    List (Use σ ℓ φ) → Moment σ ℓ φ → List ConnectionInfo
  | [], _ => []
  | first :: later, m =>
    (first.connection? host m).toList ++
      connections host probe disk later (m.use host probe disk first)

end Moment

namespace Coordinator

theorem connectTo_affinity (host : Host σ ℓ) (spec : Address) (policy : RetryPolicy)
    (progress : ProgressCallback σ) (c : Coordinator ℓ) (w : σ) :
    let run := c.connectTo host spec policy progress w
    run.2.1.affinity =
      ((run.1.toOption.map Connected.info).map Affinity.ofConnection).or c.affinity := by
  have frame := (c.connectTo_frame host spec policy progress w).2.2
  revert frame
  dsimp only
  cases (c.connectTo host spec policy progress w).1 with
  | error e => exact id
  | ok connected => exact id

end Coordinator

theorem Session.address_of_connect {host : Host σ ℓ} {a : Address} {options : OpenOptions}
    {s s' : Session ℓ} {w w' : σ} {info : ConnectionInfo}
    (connects : s.connect host a options w = (.ok info, s', w')) : info.address = a := by
  unfold connect at connects
  generalize (if s.isConnected then s.close host w else (s, w)) = begun at connects
  obtain ⟨s, w⟩ := begun
  dsimp only at connects
  rcases shaken : handshake host a options w with ⟨e | ⟨link, info⟩, w''⟩
  · rw [shaken] at connects
    cases connects
  · rw [shaken] at connects
    cases connects
    exact (accepted_of_handshake shaken).1

namespace Coordinator

theorem connectTo_eligible (host : Host σ ℓ) (spec : Address) (policy : RetryPolicy)
    (progress : ProgressCallback σ) (c : Coordinator ℓ) (w : σ) {connected : Connected}
    (ok : (c.connectTo host spec policy progress w).1 = .ok connected) :
    isEligible c.blacklist spec connected.info.address = true := by
  have keeps : Keeps host progress c.options (isEligible c.blacklist spec · = true)
      (fun _ _ => True) (fun info _ _ => isEligible c.blacklist spec info.address = true) := {
    listed := fun _ _ => trivial
    asked := fun _ _ => trivial
    waited := fun _ _ => trivial
    failed := fun _ _ _ => trivial
    connected := fun eligible _ connects => Session.address_of_connect connects ▸ eligible }
  have ends := connectTo_keeps spec keeps policy (w := w) trivial
  revert ends ok
  rcases c.connectTo host spec policy progress w with ⟨e | result, c', w'⟩
  · rintro ⟨⟩
  · rintro ⟨⟩
    exact id

theorem connectTo_isCandidate (host : Host σ ℓ) (spec : Address) (policy : RetryPolicy)
    (progress : ProgressCallback σ) (c : Coordinator ℓ) (w : σ) {info : ConnectionInfo}
    (made : info ∈ (c.connectTo host spec policy progress w).1.toOption.map Connected.info) :
    info.address.IsCandidate := by
  rcases result : (c.connectTo host spec policy progress w).1 with e | connected
  · rw [result] at made
    cases made
  · rw [result] at made
    cases made
    have eligible := connectTo_eligible host spec policy progress c w result
    have selected := ((isEligible_iff _ _ _).mp eligible).2.1
    exact ((Address.selects_iff _ _).mp selected).1

end Coordinator

namespace Moment

variable (host : Host σ ℓ) (probe : Address → σ → Bool × σ) (disk : Disk φ)

theorem foldl_visit_affinity (quarantining : Bool) (found : List Address) (m : Moment σ ℓ φ) :
    (found.foldl (visit probe disk quarantining) m).coordinator.affinity =
      m.coordinator.affinity := by
  induction found generalizing m with
  | nil => rfl
  | cons candidate rest ih =>
      have same : (m.visit probe disk quarantining candidate).coordinator.affinity =
          m.coordinator.affinity := by
        unfold visit
        dsimp only
        split
        · rfl
        · split <;> rfl
      exact (ih _).trans same

theorem perform_affinity (op : Coordinator.Operation σ) (m : Moment σ ℓ φ) :
    (m.perform host probe disk op).coordinator.affinity =
      ((op.connection? host m).map Affinity.ofConnection).or m.coordinator.affinity := by
  cases op with
  | connect spec policy progress =>
      simp only [perform, Coordinator.Operation.connection?, Coordinator.connect]
      cases Address.parse spec with
      | error e => rfl
      | ok spec => exact m.coordinator.connectTo_affinity host spec policy progress m.world
  | connectTo spec policy progress =>
      exact m.coordinator.connectTo_affinity host spec policy progress m.world
  | pingAll filter quarantining =>
      exact foldl_visit_affinity probe disk quarantining _ (m.listed host filter)
  | disconnect => rfl
  | reset => rfl
  | resetToBootloader => rfl
  | setOptions options => rfl

theorem use_affinity (first : Use σ ℓ φ) (m : Moment σ ℓ φ) :
    (m.use host probe disk first).coordinator.affinity =
      ((first.connection? host m).map Affinity.ofConnection).or m.coordinator.affinity := by
  cases first with
  | operation op => exact perform_affinity host probe disk op m
  | lent session blacklist world files => rfl

theorem foldl_use_affinity (uses : List (Use σ ℓ φ)) (m : Moment σ ℓ φ) :
    (uses.foldl (use host probe disk) m).coordinator.affinity =
      ((connections host probe disk uses m).getLast?.map Affinity.ofConnection).or
        m.coordinator.affinity := by
  induction uses generalizing m with
  | nil => rfl
  | cons first later ih =>
      have single : (first.connection? host m).toList.getLast? = first.connection? host m := by
        cases first.connection? host m <;> rfl
      rw [List.foldl_cons, ih, use_affinity, connections, List.getLast?_append, single,
        Option.map_or, Option.or_assoc]

theorem connection?_isCandidate {first : Use σ ℓ φ} {m : Moment σ ℓ φ} {info : ConnectionInfo}
    (made : info ∈ first.connection? host m) : info.address.IsCandidate := by
  rcases first with op | _
  · cases op with
    | connect spec policy progress =>
        simp only [Use.connection?, Coordinator.Operation.connection?, Coordinator.connect] at made
        cases parsed : Address.parse spec with
        | error e =>
            rw [parsed] at made
            cases made
        | ok spec =>
            rw [parsed] at made
            exact m.coordinator.connectTo_isCandidate host spec policy progress m.world made
    | connectTo spec policy progress =>
        exact m.coordinator.connectTo_isCandidate host spec policy progress m.world made
    | _ => cases made
  · cases made

theorem connections_isCandidate {uses : List (Use σ ℓ φ)} {m : Moment σ ℓ φ}
    {info : ConnectionInfo} (made : info ∈ connections host probe disk uses m) :
    info.address.IsCandidate := by
  induction uses generalizing m with
  | nil => cases made
  | cons first later ih =>
      rcases List.mem_append.mp made with here | behind
      · exact connection?_isCandidate host (Option.mem_toList.mp here)
      · exact ih behind

end Moment

/-! ### What a call tries first -/

theorem Affinity.prefers_iff {affinity : Affinity} (full : affinity.address.IsCandidate)
    (a : Address) :
    affinity.prefers a = true ↔ a = affinity.address ∨
      affinity.serialNumber ≠ "" ∧ ∃ s, a = .usb s ∧ s.serialNumber = some affinity.serialNumber := by
  have named : a.usbSerialNumber = some affinity.serialNumber ↔
      ∃ s, a = .usb s ∧ s.serialNumber = some affinity.serialNumber := by
    cases a <;> simp [Address.usbSerialNumber]
  simp only [prefers, Bool.or_eq_true, Bool.and_eq_true, decide_eq_true_iff,
    Address.selects_iff_eq_of_full full, named]

/-- The order in which a round tries what its listing showed. -/
structure Preferring (c : Coordinator ℓ) (spec : Address) (found order : List Address) : Prop where
  perm : order.Perm (found.filter (Coordinator.isEligible c.blacklist spec))
  plain : spec ≠ .any ∨ c.affinity = none →
    order = found.filter (Coordinator.isEligible c.blacklist spec)
  groups : spec = .any → ∀ affinity ∈ c.affinity,
    let eligible := found.filter (Coordinator.isEligible c.blacklist spec)
    order = eligible.filter affinity.prefers ++ eligible.filter fun a => !affinity.prefers a
  /-- The stable sort by the negated preference. -/
  sorted : spec = .any → ∀ affinity ∈ c.affinity,
    order = (found.filter (Coordinator.isEligible c.blacklist spec)).mergeSort
      (markedFirst affinity.prefers)

theorem Coordinator.candidates_preferring (c : Coordinator ℓ) (spec : Address)
    (found : List Address) : Preferring c spec found (c.candidates spec found) where
  perm := tryOrder_perm c.blacklist _ spec found
  plain := by
    intro open_
    have unsorted : (if spec.isAny then c.affinity else none) = none := by
      rcases open_ with other | unknown
      · cases spec with
        | any => exact absurd rfl other
        | _ => rfl
      · rw [unknown, ite_self]
    rw [candidates, unsorted]
    rfl
  groups := by
    rintro rfl affinity known
    rw [candidates, if_pos (show Address.any.isAny = true from rfl), Option.mem_def.mp known]
    rfl
  sorted := by
    rintro rfl affinity known
    rw [candidates, if_pos (show Address.any.isAny = true from rfl), Option.mem_def.mp known,
      mergeSort_markedFirst]
    rfl

/-- What a log and a result say of the order in which a call tries candidates. -/
structure TriesPreferred (c : Coordinator (Address × ℓ)) (spec : Address) (policy : RetryPolicy)
    (rounds : List Round) (ending : Ending) (log : List Event)
    (result : Except ConnectError Connected) : Prop where
  /-- The log is these rounds, action by action; so it fixes how each attempt was met. -/
  actions : log = transcript spec.transport c.options policy.delay ending 1 rounds
  cut : Course c.options policy.maxAttempts.toNat rounds ending
  report : result = ending.report rounds.length (rounds.foldl (noted c.options) (false, none))
  listings : log.filterMap Event.listing? = rounds.map fun r => (spec.transport, r.found)
  opens : log.filterMap Event.opened? = rounds.flatMap Round.opened
  /-- A round goes through its order from the start, and stops early only if it connects. -/
  order : ∀ r ∈ rounds, ∃ order, Preferring c spec r.found order ∧
    Tries c.options order r.attempts ∧ r.opened <+: order ∧
    ((∀ a ∈ r.attempts, a.Fails c.options) → r.opened = order)

theorem Coordinator.connectTo_triesPreferred (host : Host σ ℓ) (spec : Address)
    (policy : RetryPolicy) (progress : ProgressCallback σ) (c : Coordinator (Address × ℓ)) (w : σ) :
    let run := c.connectTo host.traced spec policy progress.traced (w, [])
    ∃ rounds ending, TriesPreferred c spec policy rounds ending run.2.2.2 run.1 := by
  intro run
  obtain ⟨rounds, ending, cut, follows, report, written⟩ :=
    connectTo_traced host spec policy progress c (w, [])
  rw [List.nil_append] at written
  refine ⟨rounds, ending, {
    actions := written
    cut
    report
    listings := written ▸ transcript_listings _ _ _ _ 1 rounds
    opens := written ▸ transcript_opened _ _ _ _ 1 rounds
    order := fun r round => ?_ }⟩
  refine ⟨c.candidates spec r.found, c.candidates_preferring spec r.found, follows r round,
    (follows r round).initial, fun all => ?_⟩
  exact ((follows r round).all_of_failed (lastResult_of_all_fail all none)).1

/-- Whatever was done with a coordinator, it remembers the address and the serial number of its last
connection, or nothing if there was none. The call that comes next tries what looks like that device
before the rest if it leaves everything open, and else keeps the order of its listings; it loses no
candidate, and tries all as long as every attempt fails. -/
theorem runs_prefer_last_device (host : Host σ ℓ) (probe : Address → σ → Bool × σ) (disk : Disk φ)
    (b : Blacklist) (options : OpenOptions) (w : σ) (files : φ) (uses : List (Use σ ℓ φ)) :
    let start : Moment σ ℓ φ := ⟨.start b options, w, files⟩
    let made := start.connections host probe disk uses
    let m := uses.foldl (Moment.use host probe disk) start
    (m.coordinator.affinity = none ↔ made = []) ∧
      m.coordinator.affinity = made.getLast?.map (fun info => ⟨info.address, info.serialNumber⟩) ∧
      (∀ affinity ∈ m.coordinator.affinity, ∀ a, affinity.prefers a = true ↔
        a = affinity.address ∨ affinity.serialNumber ≠ "" ∧
          ∃ s, a = .usb s ∧ s.serialNumber = some affinity.serialNumber) ∧
      ∀ label spec policy progress,
        let c := m.coordinator.mapLink (label, ·)
        let run := c.connectTo host.traced spec policy progress.traced (m.world, [])
        (∃ rounds ending, TriesPreferred c spec policy rounds ending run.2.2.2 run.1) ∧
          m.coordinator.connectTo host spec policy progress m.world =
            (run.1, run.2.1.mapLink Prod.snd, run.2.2.1) := by
  intro start made m
  have remembered : m.coordinator.affinity = made.getLast?.map Affinity.ofConnection :=
    (Moment.foldl_use_affinity host probe disk uses start).trans Option.or_none
  refine ⟨?_, remembered, ?_, ?_⟩
  · rw [remembered, Option.map_eq_none_iff, List.getLast?_eq_none_iff]
  · intro affinity known
    rw [remembered] at known
    obtain ⟨info, last, rfl⟩ := Option.map_eq_some_iff.mp known
    -- Only candidates are connected to, so what is remembered selects itself alone.
    have full := Moment.connections_isCandidate host probe disk (List.mem_of_getLast? last)
    exact Affinity.prefers_iff full
  · intro label spec policy progress
    refine ⟨Coordinator.connectTo_triesPreferred host spec policy progress _ m.world, ?_⟩
    have same := Coordinator.connectTo_simulated host.traced_simulates progress.traced_simulates spec
      policy (m.coordinator.mapLink (label, ·)) (m.world, [])
    have bare : (m.coordinator.mapLink (label, ·)).mapLink Prod.snd = m.coordinator := by
      simp [Coordinator.mapLink, Session.mapLink]
    rwa [bare] at same

/-- A device that comes back with another product number is tried before the one listed first. -/
example :
    let first : Address := .usb ⟨some 0x20a0, some 1, some 0, some "A7"⟩
    let again : Address := .usb ⟨some 0x20a0, some 2, some 0, some "A7"⟩
    let other : Address := .usb ⟨some 0x20a0, some 1, some 0, some "B1"⟩
    let identity : DeviceHello := ⟨2, .normal, ⟨"A7", by decide⟩, 1⟩
    let devices : Rehearsal :=
      ⟨[[first], [other, again]], false, [(first.format, [.answers [] identity])]⟩
    let call (m : Coordinator (Address × RehearsedLink) × Rehearsal × List Event) :=
      (m.1.connectTo Rehearsal.host.traced .any .once
        (ProgressCallback.traced fun _ _ w => (.proceed, w)) m.2).2
    openings (call (call (.start (.inMemory []) ⟨false⟩, devices, []))).2.2 =
      [first, again, other] := by
  decide +kernel

end DeviceConnect
