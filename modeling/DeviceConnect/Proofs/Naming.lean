import DeviceConnect.Proofs.Address
import DeviceConnect.Proofs.Candidates
import DeviceConnect.Proofs.Selection
import DeviceConnect.Proofs.Sweep
import DeviceConnect.Disk.Tree
import DeviceConnect.Rehearsal

/-! What the blacklist hides. It compares texts, and the text of a full address names one device, also
where it cannot be read back: its digits have a fixed width, so only the serial number, which comes
last, may hold separators. What is put on the blacklist is therefore hidden, and nothing else is. -/
namespace DeviceConnect

variable {σ ℓ φ : Type}

/-! ### The text of a device -/

theorem Hex.upper_injective {width m n : Nat} (small : m < Nat.pow 16 width)
    (small' : n < Nat.pow 16 width) (same : upper width m = upper width n) : m = n := by
  have read := congrArg value? same
  rw [value?_upper small, value?_upper small'] at read
  exact Option.some.inj read

namespace Address

theorem hexField_append_inj {width m n : Nat} {rest rest' : List Char} (small : m < Nat.pow 16 width)
    (small' : n < Nat.pow 16 width)
    (same : hexField width (some m) ++ rest = hexField width (some n) ++ rest') :
    m = n ∧ rest = rest' := by
  have lengths : (hexField width (some m)).length = (hexField width (some n)).length := by
    simp only [hexField, List.length_cons, Hex.length_upper]
  obtain ⟨fields, rests⟩ := List.append_inj same lengths
  exact ⟨Hex.upper_injective small small' (List.cons.inj fields).2, rests⟩

theorem selectorText_injective {s t : UsbSelector} (full : s.isFull = true) (full' : t.isFull = true)
    (same : selectorText s = selectorText t) : s = t := by
  simp only [UsbSelector.isFull, Bool.and_eq_true, Option.isSome_iff_exists] at full full'
  obtain ⟨_, _, _, _⟩ := s
  obtain ⟨_, _, _, _⟩ := t
  obtain ⟨⟨⟨⟨v, rfl⟩, ⟨p, rfl⟩⟩, ⟨i, rfl⟩⟩, ⟨text, rfl⟩⟩ := full
  obtain ⟨⟨⟨⟨v', rfl⟩, ⟨p', rfl⟩⟩, ⟨i', rfl⟩⟩, ⟨text', rfl⟩⟩ := full'
  simp only [selectorText, Option.map_some, Option.getD_some, List.append_assoc] at same
  obtain ⟨vendor, behindVendor⟩ := hexField_append_inj v.toNat_lt v'.toNat_lt same
  obtain ⟨product, behindProduct⟩ := hexField_append_inj p.toNat_lt p'.toNat_lt behindVendor
  obtain ⟨interface, number⟩ := hexField_append_inj i.toNat_lt i'.toNat_lt behindProduct
  cases UInt16.toNat_inj.mp vendor
  cases UInt16.toNat_inj.mp product
  cases UInt8.toNat_inj.mp interface
  cases String.toList_inj.mp (List.cons.inj number).2
  rfl

theorem tag_append_inj {t : Transport} {cs ds : List Char}
    (same : String.ofList (t.tag.toList ++ cs) = String.ofList (t.tag.toList ++ ds)) : cs = ds :=
  List.append_cancel_left (String.ofList_injective same)

theorem tag_append_ne (cs ds : List Char) : String.ofList (Transport.usb.tag.toList ++ cs) ≠
    String.ofList (Transport.serial.tag.toList ++ ds) := by
  intro same
  have texts := String.ofList_injective same
  cases texts

theorem format_injective {a c : Address} (device : a.IsCandidate) (device' : c.IsCandidate)
    (same : a.format = c.format) : a = c := by
  obtain ⟨full, listed⟩ := device
  obtain ⟨full', listed'⟩ := device'
  cases a with
  | any => cases full
  | host path => cases listed
  | usb s =>
      cases c with
      | any => cases full'
      | host path => cases listed'
      | usb t => exact congrArg usb (selectorText_injective full full' (tag_append_inj same))
      | serial path => exact absurd same (tag_append_ne _ _)
  | serial path =>
      cases c with
      | any => cases full'
      | host path => cases listed'
      | usb t => exact absurd same.symm (tag_append_ne _ _)
      | serial path' =>
          obtain ⟨text, rfl⟩ := Option.isSome_iff_exists.mp full
          obtain ⟨text', rfl⟩ := Option.isSome_iff_exists.mp full'
          exact congrArg (serial ∘ some) (String.toList_inj.mp (tag_append_inj same))

end Address

/-! ### What a blacklist gains -/

/-- The devices that a report says were put on the blacklist, in its order. -/
def quarantinedDevices (report : List PingResult) : List Address :=
  (report.filter PingResult.quarantined).map PingResult.address

theorem quarantinedTexts_eq (report : List PingResult) :
    quarantinedTexts report = (quarantinedDevices report).map Address.format := by
  rw [quarantinedDevices, List.map_map]
  rfl

namespace Blacklist

/-- The list holds the texts of some more devices, and is otherwise as it was. -/
def Gains (before : Blacklist) (gained : List Address) (after : Blacklist) : Prop :=
  ∀ text, text ∈ after.entries ↔ text ∈ before.entries ∨ ∃ a ∈ gained, a.format = text

theorem mem_insertNew_iff {entries : List String} {e entry : String} :
    e ∈ insertNew entries entry ↔ e ∈ entries ∨ e = entry := by
  constructor
  · exact mem_insertNew
  · rintro (early | rfl)
    · exact (prefix_insertNew entries entry).subset early
    · exact self_mem_insertNew entries e

theorem add_entries_of_ok {disk : Disk φ} {entry : String} {b : Blacklist} {files : φ} {fresh : Bool}
    (ok : (b.add disk entry files).1 = .ok fresh) :
    (b.add disk entry files).2.1.entries = insertNew b.entries entry := by
  by_cases present : entry ∈ b.entries
  · rw [add_of_mem disk present, insertNew, if_pos present]
  · have like : b.SavesLike b.store := rfl
    obtain ⟨left, committed, _, entries⟩ := like.commit disk (b.entries ++ [entry]) files
    revert ok
    rw [insertNew, if_neg present, add_of_not_mem disk present, committed]
    revert entries
    rcases (saveList disk b.store (b.entries ++ [entry]) files).1 with e | ⟨⟩
    · rintro _ ⟨⟩
    · exact fun entries _ => entries

theorem gains_of_add {disk : Disk φ} {a : Address} {b : Blacklist} {files : φ} {fresh : Bool}
    (ok : (b.add disk a.format files).1 = .ok fresh) :
    b.Gains [a] (b.add disk a.format files).2.1 := by
  intro text
  rw [add_entries_of_ok ok, mem_insertNew_iff]
  simp [eq_comm]

end Blacklist

namespace Coordinator

variable {before after : Blacklist} {gained : List Address}

/-- A device whose text has come to the blacklist is hidden; another one is as eligible as before. -/
theorem isEligible_of_gains (devices : ∀ a ∈ gained, a.IsCandidate) (gains : before.Gains gained after)
    (spec a : Address) :
    isEligible after spec a = true ↔ isEligible before spec a = true ∧ a ∉ gained := by
  rw [isEligible_iff, isEligible_iff, gains a.format]
  constructor
  · rintro ⟨full, selected, absent⟩
    obtain ⟨unlisted, other⟩ := not_or.mp absent
    exact ⟨⟨full, selected, unlisted⟩, fun member => other ⟨a, member, rfl⟩⟩
  · rintro ⟨⟨full, selected, unlisted⟩, other⟩
    refine ⟨full, selected, not_or.mpr ⟨unlisted, ?_⟩⟩
    rintro ⟨hidden, member, same⟩
    have device := ((Address.selects_iff spec a).mp selected).1
    cases Address.format_injective (devices hidden member) device same
    exact other member

theorem filter_isEligible_of_gains (devices : ∀ a ∈ gained, a.IsCandidate)
    (gains : before.Gains gained after) (spec : Address) (found : List Address) :
    found.filter (isEligible after spec) =
      (found.filter (isEligible before spec)).filter (· ∉ gained) := by
  rw [List.filter_filter]
  refine List.filter_congr fun a _ => Bool.eq_iff_iff.mpr ?_
  rw [isEligible_of_gains devices gains, Bool.and_eq_true, decide_eq_true_iff, and_comm]

/-- The order of what is left does not depend on what is taken away. -/
theorem preferredFirst_filter (preferred : Option Affinity) (p : Address → Bool)
    (candidates : List Address) :
    preferredFirst preferred (candidates.filter p) = (preferredFirst preferred candidates).filter p := by
  cases preferred with
  | none => rfl
  | some affinity =>
      rw [preferredFirst, preferredFirst, List.filter_append]
      congr 1
      · exact List.filter_comm _ _ _
      · exact List.filter_comm _ _ _

theorem candidates_of_gains (devices : ∀ a ∈ gained, a.IsCandidate) {c : Coordinator ℓ}
    (gains : c.blacklist.Gains gained after) (spec : Address) (found : List Address) :
    { c with blacklist := after }.candidates spec found =
      (c.candidates spec found).filter (· ∉ gained) := by
  unfold candidates tryOrder
  rw [filter_isEligible_of_gains devices gains, preferredFirst_filter]

theorem sweep_gains (host : Host σ ℓ) (disk : Disk φ) (quarantining : Bool) (found : List Address)
    (b : Blacklist) (w : σ) (files : φ) :
    let run := sweep host disk quarantining found b w files
    b.Gains (quarantinedDevices run.1) run.2.1 ∧ ∀ a ∈ quarantinedDevices run.1, a ∈ found := by
  have like : b.SavesLike b.store := rfl
  obtain ⟨turns, taken, results, _⟩ := sweep_traced host disk quarantining found like w [] files
  have plain := sweep_simulated host.traced_simulates disk quarantining found b (w, []) files
  dsimp only at plain ⊢
  rw [plain]
  refine ⟨fun text => ?_, fun a hidden => ?_⟩
  · rw [taken.last_eq, ← results, List.mem_append, quarantinedTexts_eq, List.mem_map]
  · obtain ⟨r, reported, rfl⟩ := List.mem_map.mp hidden
    have listed := List.mem_of_mem_filter reported
    rw [results] at listed
    obtain ⟨t, turn, rfl⟩ := List.mem_map.mp listed
    exact taken.candidates_sublist.subset (List.mem_map_of_mem turn)

end Coordinator

/-- No two devices share a text, so what comes to the blacklist hides its own device and no other from
every specification: one that is added by its text, and those that a sweep reports as put there. What
can be tried afterwards is what could be tried before without them, in the same order. -/
theorem quarantine_hides_named_devices (host : Host σ ℓ) (disk : Disk φ) (c : Coordinator ℓ) :
    (∀ a b : Address, a.IsCandidate → b.IsCandidate → (a.format = b.format ↔ a = b)) ∧
      (∀ (a : Address) (after : Blacklist), a.IsCandidate → c.blacklist.Gains [a] after →
        ∀ spec found, found.filter (Coordinator.isEligible after spec) =
            (found.filter (Coordinator.isEligible c.blacklist spec)).filter (· ≠ a) ∧
          { c with blacklist := after }.candidates spec found =
            (c.candidates spec found).filter (· ≠ a)) ∧
      (∀ (a : Address) files added, (c.blacklist.add disk a.format files).1 = .ok added →
        c.blacklist.Gains [a] (c.blacklist.add disk a.format files).2.1) ∧
      ∀ filter quarantining w files, (∀ a ∈ (host.enumerate filter w).1, a.IsCandidate) →
        let run := c.pingAll host disk filter quarantining w files
        ∀ spec found, run.2.1.candidates spec found =
          (c.candidates spec found).filter (· ∉ quarantinedDevices run.1) := by
  refine ⟨?_, ?_, ?_, ?_⟩
  · intro a b device device'
    exact ⟨Address.format_injective device device', congrArg Address.format⟩
  · intro a after device gains spec found
    have devices : ∀ b ∈ [a], b.IsCandidate := List.forall_mem_singleton.mpr device
    have other : (fun b : Address => decide (b ∉ [a])) = fun b => decide (b ≠ a) := by
      funext b
      simp only [List.mem_singleton, ne_eq]
    rw [← other]
    exact ⟨Coordinator.filter_isEligible_of_gains devices gains spec found,
      Coordinator.candidates_of_gains devices gains spec found⟩
  · intro a files added ok
    exact Blacklist.gains_of_add ok
  · intro filter quarantining w files devices run spec found
    obtain ⟨gains, listed⟩ := Coordinator.sweep_gains host disk quarantining
      (host.enumerate filter w).1 c.blacklist (host.enumerate filter w).2 files
    exact Coordinator.candidates_of_gains (fun a hidden => devices a (listed a hidden)) gains spec
      found

/-- A serial number with a separator makes a text that cannot be read, and yet hides its device alone:
beside one whose serial number begins alike, and after a sweep in which it stays silent. -/
theorem slashed_serial_number_hides_its_device :
    let a : Address := .usb ⟨some 0x20a0, some 1, some 0, some "A/7"⟩
    let b : Address := .usb ⟨some 0x20a0, some 1, some 0, some "A"⟩
    let c : Coordinator RehearsedLink := .start (.inMemory []) ⟨false⟩
    let identity : DeviceHello := ⟨2, .normal, ⟨"A", by decide⟩, 1⟩
    let devices : Rehearsal :=
      ⟨[[a, b]], false, [(a.format, [.fails .timeout]), (b.format, [.answers [] identity])]⟩
    let added := c.blacklist.add treeDisk a.format .empty
    let swept := c.pingAll Rehearsal.host treeDisk none true devices .empty
    (a.IsCandidate ∧ b.IsCandidate ∧ Address.parse a.format = .error ⟨a.format, .tooManySegments⟩) ∧
      a.format ≠ b.format ∧
      (added.1 = .ok true ∧ { c with blacklist := added.2.1 }.candidates .any [a, b, a] = [b]) ∧
      quarantinedDevices swept.1 = [a] ∧ swept.2.1.candidates .any [a, b, a] = [b] := by
  intro a b c identity devices added swept
  have device : a.IsCandidate := ⟨rfl, rfl⟩
  have device' : b.IsCandidate := ⟨rfl, rfl⟩
  have saved : added.1 = .ok true := by decide +kernel
  have silent : quarantinedDevices swept.1 = [a] := by decide +kernel
  have listed : ∀ d ∈ (Rehearsal.host.enumerate none devices).1, d.IsCandidate :=
    List.forall_mem_cons.mpr ⟨device, List.forall_mem_singleton.mpr device'⟩
  obtain ⟨names, hides, gains, sweeps⟩ := quarantine_hides_named_devices Rehearsal.host treeDisk c
  refine ⟨⟨device, device', by decide +kernel⟩, ?_, ⟨saved, ?_⟩, silent, ?_⟩
  · intro same
    exact absurd ((names a b device device').mp same) (by decide)
  · have hidden := hides a added.2.1 device (gains a .empty true saved) .any [a, b, a]
    exact hidden.2.trans (by decide +kernel)
  · have hidden := sweeps none true devices .empty listed .any [a, b, a]
    rw [hidden, silent]
    decide +kernel

end DeviceConnect
