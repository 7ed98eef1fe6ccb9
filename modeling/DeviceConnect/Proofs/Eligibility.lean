import DeviceConnect.CommandLine.Run
import DeviceConnect.Proofs.Enumeration
import DeviceConnect.Proofs.Openings
import DeviceConnect.Proofs.Selection
import DeviceConnect.Rehearsal

/-! Which devices are eligible, asked in two ways. A listing of the specification's transport alone
leaves out only what the specification would not select. What a listing prints unmarked is what a
round tries of it; a round may still stop early, and devices may come and go between the two. -/
namespace DeviceConnect

variable {σ ℓ : Type}

/-! ### Listing one transport -/

theorem Address.transport_of_selects {spec a : Address} (selected : spec.selects a = true) :
    ∀ transport ∈ spec.transport, a.transport = some transport := by
  intro transport asked
  cases ((selects_iff spec a).mp selected).2 with
  | any => cases asked
  | usb _ => exact asked
  | serial _ => exact asked

theorem Address.filter_transport {shown : Transport} {found : List Address}
    (all : ∀ a ∈ found, a.transport = some shown) (transport : Transport) :
    found.filter (·.transport = some transport) = if shown = transport then found else [] := by
  split
  · next same =>
      subst same
      exact List.filter_eq_self.mpr fun a member => decide_eq_true (all a member)
  · next other =>
      refine List.filter_eq_nil_iff.mpr fun a member wanted => other ?_
      exact Option.some.inj ((all a member).symm.trans (of_decide_eq_true wanted))

theorem Coordinator.filter_isEligible_of_transport (blacklist : Blacklist) {spec : Address}
    {transport : Transport} (asked : spec.transport = some transport) (found : List Address) :
    (found.filter (·.transport = some transport)).filter (isEligible blacklist spec) =
      found.filter (isEligible blacklist spec) := by
  rw [List.filter_filter]
  refine List.filter_congr fun a _ => ?_
  cases eligible : isEligible blacklist spec a with
  | false => rfl
  | true =>
      have selected := ((isEligible_iff blacklist spec a).mp eligible).2.1
      exact decide_eq_true (Address.transport_of_selects selected transport asked)

namespace Bench

theorem transport_of_mem_scanUsb {b : Bench} {a : Address} (member : a ∈ b.scanUsb.1) :
    a.transport = some .usb := by
  rw [scanUsb_eq] at member
  obtain ⟨shown, _, rfl⟩ := List.mem_map.mp member
  rfl

theorem transport_of_mem_scanSerial {b : Bench} {a : Address} (member : a ∈ b.scanSerial.1) :
    a.transport = some .serial := by
  rw [scanSerial_eq] at member
  obtain ⟨p, _, rfl⟩ := List.mem_map.mp member
  rfl

/-- Listing the USB devices first does not change what the ports offer. -/
theorem enumerate_none (b : Bench) : (b.enumerate none).1 = b.scanUsb.1 ++ b.scanSerial.1 := by
  have same : b.scanUsb.2.scanSerial.1 = b.scanSerial.1 := by
    rw [scanSerial_eq, scanSerial_eq, scanUsb_eq]
    exact congrArg (List.map portAddress) b.shownPorts_listUsb
  exact congrArg (b.scanUsb.1 ++ ·) same

theorem enumerate_some (b : Bench) (transport : Transport) :
    (b.enumerate (some transport)).1 =
      (b.enumerate none).1.filter (·.transport = some transport) := by
  rw [enumerate_none, List.filter_append,
    Address.filter_transport (fun a member => transport_of_mem_scanUsb member),
    Address.filter_transport (fun a member => transport_of_mem_scanSerial member)]
  cases transport with
  | usb => exact (List.append_nil _).symm
  | serial => rfl

/-- A listing of one transport shows of a listing of all what is of this transport, also where either
fails. So asking for the specification's transport alone leaves out nothing that is eligible. -/
theorem narrow_listing_keeps_eligible (b : Bench) :
    (∀ transport, (b.enumerate (some transport)).1 =
        (b.enumerate none).1.filter (·.transport = some transport)) ∧
      ∀ (blacklist : Blacklist) (spec : Address),
        (b.enumerate spec.transport).1.filter (Coordinator.isEligible blacklist spec) =
          (b.enumerate none).1.filter (Coordinator.isEligible blacklist spec) := by
  refine ⟨b.enumerate_some, ?_⟩
  intro blacklist spec
  cases asked : spec.transport with
  | none => rfl
  | some transport =>
      rw [enumerate_some]
      exact Coordinator.filter_isEligible_of_transport blacklist asked _

end Bench

/-! ### Listing and trying -/

namespace Mark

theorem of_eq_blacklisted_iff (blacklist : Blacklist) (spec a : Address) :
    Mark.of blacklist spec a = blacklisted ↔ a.format ∈ blacklist.entries := by
  unfold Mark.of Blacklist.contains
  split
  · next listed => exact iff_of_true rfl (of_decide_eq_true listed)
  · next absent =>
      refine iff_of_false ?_ fun listed => absent (decide_eq_true listed)
      split <;> rintro ⟨⟩

theorem of_eq_noMatch_iff (blacklist : Blacklist) (spec a : Address) :
    Mark.of blacklist spec a = noMatch ↔
      a.format ∉ blacklist.entries ∧ spec.selects a = false := by
  unfold Mark.of Blacklist.contains
  by_cases listed : a.format ∈ blacklist.entries
  · simp [listed]
  · cases spec.selects a <;> simp [listed]

theorem of_eq_eligible_iff (blacklist : Blacklist) (spec a : Address) :
    Mark.of blacklist spec a = eligible ↔ Coordinator.isEligible blacklist spec a = true := by
  unfold Mark.of Coordinator.isEligible
  cases blacklist.contains a.format <;> cases spec.selects a <;> simp

end Mark

/-- The candidates that carry the mark, in the order in which they are shown. -/
def carrying (mark : Mark) (shown : List (Address × Mark)) : List Address :=
  (shown.filter (·.2 = mark)).map Prod.fst

def printedLines : List (Address × Mark) → List String
  | [] => ["No devices found."]
  | shown => shown.map fun (candidate, mark) => candidate.format ++ mark.note

/-- Every candidate is shown once, in its place, and carries the mark that is due to it. -/
structure MarksDue (blacklist : Blacklist) (spec : Address) (found : List Address)
    (shown : List (Address × Mark)) : Prop where
  whole : shown.map Prod.fst = found
  blacklisted : carrying .blacklisted shown = found.filter (·.format ∈ blacklist.entries)
  noMatch : carrying .noMatch shown =
    found.filter fun a => a.format ∉ blacklist.entries ∧ spec.selects a = false
  eligible : carrying .eligible shown = found.filter (Coordinator.isEligible blacklist spec)

section
variable (blacklist : Blacklist) (spec : Address)

/-- Candidates with the marks of a listing. -/
def withMarks (found : List Address) : List (Address × Mark) :=
  found.map fun a => (a, Mark.of blacklist spec a)

theorem carrying_withMarks (mark : Mark) (found : List Address) :
    carrying mark (withMarks blacklist spec found) =
      found.filter (Mark.of blacklist spec · = mark) := by
  rw [carrying, withMarks, List.filter_map, List.map_map]
  exact List.map_id' _

theorem marksDue_withMarks (found : List Address) :
    MarksDue blacklist spec found (withMarks blacklist spec found) where
  whole := by
    rw [withMarks, List.map_map]
    exact List.map_id' _
  blacklisted := by
    simp only [carrying_withMarks, Mark.of_eq_blacklisted_iff]
  noMatch := by
    simp only [carrying_withMarks, Mark.of_eq_noMatch_iff]
  eligible := by
    simp only [carrying_withMarks, Mark.of_eq_eligible_iff, Bool.decide_eq_true]

theorem listingLines_eq (found : List Address) :
    listingLines blacklist spec found = printedLines (withMarks blacklist spec found) := by
  cases found with
  | nil => rfl
  | cons a rest => simp [listingLines, printedLines, withMarks]

end

theorem Coordinator.runRound_openings (host : Host σ ℓ) (blacklist : Blacklist)
    (options : OpenOptions) (spec : Address) (preferred : Option Affinity)
    (s : Session (Address × ℓ)) (w : σ) :
    let round := runRound host.traced blacklist options spec preferred s (w, [])
    let order := tryOrder blacklist preferred spec (host.enumerate spec.transport w).1
    openings round.2.2.2 <+: order ∧
      ((∀ info, round.1 ≠ .connected info) → openings round.2.2.2 = order) := by
  obtain ⟨r, listed, tries, outcome, written⟩ :=
    runRound_traced host blacklist options spec preferred s w []
  intro round order
  have opened : openings round.2.2.2 = r.opened := by
    rw [written]
    exact Round.filterMap_opened spec.transport options r
  rw [listed] at tries
  constructor
  · rw [opened]
    exact tries.initial
  · intro vain
    rw [opened]
    cases ended : r.outcome options with
    | connected info => exact absurd (outcome.trans ended) (vain info)
    | failed matched e => exact (tries.all_of_failed (Round.lastResult_of_failed ended)).1

/-- What a listing prints unmarked is what a round tries of it. Everything that is found is printed
once and in its order; what is on the blacklist is marked so, whether it is selected or not, and of
the rest what is not selected. A round without a remembered device, on any host that lists the same,
opens the unmarked candidates in their order, and all of them as long as none of them connects. -/
theorem listing_agrees_with_round (host : Host σ ℓ) (c : Coordinator ℓ) (w : σ) {device : String}
    {spec : Address} (parsed : Address.parse device = .ok spec) :
    let found := (host.enumerate spec.transport w).1
    ∃ shown, MarksDue c.blacklist spec found shown ∧
      c.runList host device w = (.done (printedLines shown), (host.enumerate spec.transport w).2) ∧
      ∀ (other : Host σ ℓ), (other.enumerate spec.transport w).1 = found →
        ∀ options (s : Session (Address × ℓ)),
          let round := Coordinator.runRound other.traced c.blacklist options spec none s (w, [])
          openings round.2.2.2 <+: carrying .eligible shown ∧
            ((∀ info, round.1 ≠ .connected info) →
              openings round.2.2.2 = carrying .eligible shown) ∧
            Coordinator.runRound other c.blacklist options spec none (s.mapLink Prod.snd) w =
              (round.1, round.2.1.mapLink Prod.snd, round.2.2.1) := by
  intro found
  have due := marksDue_withMarks c.blacklist spec found
  refine ⟨withMarks c.blacklist spec found, due, ?_, ?_⟩
  · rw [← listingLines_eq, Coordinator.runList, parsed]
  · intro other same options s
    obtain ⟨initial, whole⟩ :=
      Coordinator.runRound_openings other c.blacklist options spec none s w
    have order : Coordinator.tryOrder c.blacklist none spec (other.enumerate spec.transport w).1 =
        carrying .eligible (withMarks c.blacklist spec found) := by
      rw [same, due.eligible]
      rfl
    rw [order] at initial whole
    exact ⟨initial, whole,
      Coordinator.runRound_simulated other.traced_simulates c.blacklist options spec none s (w, [])⟩

/-- One port is on the blacklist, one is another port, and one, which was listed twice, fails twice. -/
theorem port_listed_twice_is_tried_twice :
    let port (name : String) : Address := .serial (some name)
    let found := [port "/dev/ttyACM0", port "/dev/ttyACM1", port "/dev/ttyACM2", port "/dev/ttyACM1"]
    let devices : Rehearsal := ⟨[found], false, [("serial@/dev/ttyACM1", [.fails .timeout])]⟩
    let c : Coordinator RehearsedLink := .start (.inMemory ["serial@/dev/ttyACM0"]) ⟨false⟩
    let round := Coordinator.runRound Rehearsal.host.traced c.blacklist c.options
      (port "/dev/ttyACM1") none .start (devices, [])
    Address.parse "serial@/dev/ttyACM1" = .ok (port "/dev/ttyACM1") ∧
      (c.runList Rehearsal.host "serial@/dev/ttyACM1" devices).1 =
        .done ["serial@/dev/ttyACM0  [blacklisted]", "serial@/dev/ttyACM1",
          "serial@/dev/ttyACM2  [no match]", "serial@/dev/ttyACM1"] ∧
      round.1 = .failed true (some .timeout) ∧
      openings round.2.2.2 = [port "/dev/ttyACM1", port "/dev/ttyACM1"] := by
  intro port found devices c round
  have parsed : Address.parse "serial@/dev/ttyACM1" = .ok (port "/dev/ttyACM1") := by
    decide +kernel
  have failed : round.1 = .failed true (some .timeout) := by decide +kernel
  obtain ⟨shown, due, _, rounds⟩ := listing_agrees_with_round Rehearsal.host c devices parsed
  obtain ⟨_, whole, _⟩ := rounds Rehearsal.host rfl c.options .start
  refine ⟨parsed, by decide +kernel, failed, ?_⟩
  have vain : ∀ info, round.1 ≠ .connected info := by
    intro info connected
    cases failed.symm.trans connected
  rw [whole vain, due.eligible]
  decide +kernel

end DeviceConnect
