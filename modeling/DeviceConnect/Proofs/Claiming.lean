import DeviceConnect.Proofs.Enumeration
import DeviceConnect.Proofs.Waiting

/-! How the interface of a USB device is claimed. Every way an opening can go is told once, with what
was asked for on it; whether a link is there, what it uses, and whether anything stays claimed if it is
not, follow from that. -/
namespace DeviceConnect

def UsbDevice.identity (d : UsbDevice) : UInt16 × UInt16 × Option String :=
  (d.vendorId, d.productId, d.serialNumber)

theorem Bench.device_listUsb {b : Bench} {shown : List (Nat × UsbDevice)} {index : Nat}
    {d : UsbDevice} (listed : b.listUsb.1 = .ok shown) (member : (index, d) ∈ shown) :
    index < b.listUsb.2.usb.length ∧
      b.listUsb.2.device index = { d with present := (takeNext true d.present).2 } := by
  unfold listUsb at listed ⊢
  dsimp only at listed ⊢
  split at listed
  · cases listed
  · cases listed
    obtain ⟨⟨device, place⟩, kept, same⟩ := List.mem_map.mp member
    cases same
    have there : (b.record .listedUsb).usb[place]? = some device :=
      List.mem_zipIdx_iff_getElem?.mp (List.mem_filter.mp kept).1
    constructor
    · rw [List.length_map]
      exact (List.getElem?_eq_some_iff.mp there).1
    · rw [Bench.device, List.getD_eq_getElem?_getD, List.getElem?_map, there]
      rfl

theorem Bench.usb_record (b : Bench) (event : BenchEvent) : (b.record event).usb = b.usb := rfl

theorem Bench.device_record (b : Bench) (event : BenchEvent) (index : Nat) :
    (b.record event).device index = b.device index := rfl

theorem Bench.log_listUsb (b : Bench) : b.listUsb.2.log = b.log ++ [.listedUsb] := by
  unfold listUsb
  dsimp only
  split <;> rfl

namespace UsbLink

variable {s : UsbSelector} {interface : UInt8} {timeoutMs : Nat} {b : Bench}

/-! ### What is looked for -/

/-- The first device that a listing shows with the selector's vendor, product and serial number, and its
place on the bench. -/
def selected? (s : UsbSelector) (b : Bench) : Option (Nat × UsbDevice) :=
  match b.listUsb.1 with
  | .ok shown => shown.find? fun (_, d) => decide (s.vendorId = some d.vendorId ∧
      s.productId = some d.productId ∧ s.serialNumber = d.serialNumber)
  | .error _ => none

theorem selected?_of_listed {shown : List (Nat × UsbDevice)} (listed : b.listUsb.1 = .ok shown) :
    selected? s b = shown.find? fun (_, d) => names s d := by
  rw [selected?, listed]
  refine congrArg (shown.find? ·) (funext fun (_, d) => ?_)
  simp [names, Bool.and_assoc]

/-- The first bulk endpoint of a direction in the first setting of an interface. -/
def firstBulk? (interface : UInt8) (isIn : Bool) (d : UsbDevice) : Option Endpoint := do
  let settings ← d.configuration
  let setting ← settings.find? (·.interface = interface)
  setting.endpoints.find? fun e => e.kind = .bulk && e.isIn = isIn

theorem bulkPair?_eq_some {d : UsbDevice} {input output : Endpoint} :
    d.configuration.bind (bulkPair? interface) = some (input, output) ↔
      firstBulk? interface true d = some input ∧ firstBulk? interface false d = some output := by
  unfold firstBulk?
  cases d.configuration with
  | none => simp
  | some settings =>
      dsimp only [bind]
      simp only [Option.bind_some, bulkPair?]
      cases settings.find? (·.interface = interface) with
      | none => simp
      | some setting => simp [Option.bind_eq_some_iff]

/-- A device to which a link can be made: it opens, has a bulk endpoint each way, and lets itself be
claimed. -/
structure Claimable (interface : UInt8) (d : UsbDevice) (input output : Endpoint) : Prop where
  opens : (takeNext none d.openings).1 = none
  input : firstBulk? interface true d = some input
  output : firstBulk? interface false d = some output
  granted : (takeNext none d.claims).1 = none

/-- The ways an opening can go: what it comes to, and what it asks for on its way. -/
inductive Outcome (s : UsbSelector) (interface : UInt8) (timeoutMs : Nat) (b : Bench) :
    Except TransportError UsbLink → List BenchEvent → Prop
  | absent {message} : selected? s b = none →
      Outcome s interface timeoutMs b (.error (.openFailed (Address.usb s).format message))
        [.listedUsb]
  | shut {message index d} : selected? s b = some (index, d) →
      (takeNext none d.openings).1 = some message →
      Outcome s interface timeoutMs b (.error (.openFailed (Address.usb s).format message))
        [.listedUsb, .usbOpened d.vendorId d.productId]
  | unpaired {message index d} : selected? s b = some (index, d) →
      (∀ input output, ¬(firstBulk? interface true d = some input ∧
        firstBulk? interface false d = some output)) →
      Outcome s interface timeoutMs b (.error (.openFailed (Address.usb s).format message))
        [.listedUsb, .usbOpened d.vendorId d.productId]
  | refused {refusal message index d} : selected? s b = some (index, d) →
      (takeNext none d.claims).1 = some refusal →
      Outcome s interface timeoutMs b (.error (.openFailed (Address.usb s).format message))
        [.listedUsb, .usbOpened d.vendorId d.productId, .usbClaimed interface]
  | claimed {index d input output} : selected? s b = some (index, d) →
      Claimable interface d input output →
      Outcome s interface timeoutMs b
        (.ok ⟨index, input.address, output.address, input.maxPacket, timeoutMs, .empty⟩)
        [.listedUsb, .usbOpened d.vendorId d.productId, .usbClaimed interface]

theorem claim_outcome (numbered : s.interface = some interface) (timeoutMs : Nat) (b : Bench) :
    ∃ asked, (claim s timeoutMs b).2.log = b.log ++ asked ∧
      Outcome s interface timeoutMs b (claim s timeoutMs b).1 asked := by
  have logged := b.log_listUsb
  unfold claim
  rw [numbered]
  dsimp only
  split
  · next message there listed =>
      rw [listed] at logged
      refine ⟨_, logged, .absent ?_⟩
      rw [selected?, listed]
  · next shown there listed =>
      rw [listed] at logged
      split
      · next missing =>
          refine ⟨_, logged, .absent ?_⟩
          rw [selected?_of_listed (congrArg Prod.fst listed)]
          exact missing
      · next index d found =>
          have selected : selected? s b = some (index, d) := by
            rw [selected?_of_listed (congrArg Prod.fst listed)]
            exact found
          obtain ⟨attached, device⟩ := Bench.device_listUsb (congrArg Prod.fst listed)
            (List.mem_of_find?_eq_some found)
          rw [listed] at attached device
          dsimp only at attached device logged
          have opened : there.log ++ [.usbOpened d.vendorId d.productId] =
              b.log ++ [.listedUsb, .usbOpened d.vendorId d.productId] := by
            rw [logged, List.append_assoc]
            rfl
          have asked : (there.log ++ [.usbOpened d.vendorId d.productId]) ++ [.usbClaimed interface] =
              b.log ++ [.listedUsb, .usbOpened d.vendorId d.productId, .usbClaimed interface] := by
            rw [opened, List.append_assoc]
            rfl
          simp only [Bench.device_record, Bench.usb_record, Bench.device_setDevice, if_pos attached,
            device]
          split
          · next message shut => exact ⟨_, opened, .shut selected shut⟩
          · next opens =>
              split
              · next unpaired =>
                  refine ⟨_, opened, .unpaired selected ?_⟩
                  intro input output pair
                  cases unpaired.symm.trans (bulkPair?_eq_some.mpr pair)
              · next input output paired =>
                  obtain ⟨first, second⟩ := bulkPair?_eq_some.mp paired
                  split
                  · next refusal refused => exact ⟨_, asked, .refused selected refused⟩
                  · next granted => exact ⟨_, asked, .claimed selected ⟨opens, first, second, granted⟩⟩

/-- An interface stays claimed behind an opening that asked for these: it is among them, and the device
did not refuse it. -/
def StaysClaimed (s : UsbSelector) (b : Bench) (asked : List BenchEvent) (interface : UInt8) : Prop :=
  .usbClaimed interface ∈ asked ∧
    ∀ index d, selected? s b = some (index, d) → (takeNext none d.claims).1 = none

theorem selected?_of_candidate {earlier : Bench}
    (same : earlier.shownDevices.map (·.identity) = b.shownDevices.map (·.identity)) {a : Address}
    (candidate : a ∈ earlier.scanUsb.1) :
    ∃ s number, a = .usb s ∧ s.interface = some number ∧ ∃ found, selected? s b = some found := by
  rw [Bench.scanUsb_eq] at candidate
  obtain ⟨⟨d, i⟩, kept, rfl⟩ := List.mem_map.mp candidate
  obtain ⟨d, there, pair⟩ := List.mem_flatMap.mp (List.mem_filter.mp kept).1
  obtain ⟨i, _, ⟨⟩⟩ := List.mem_map.mp pair
  refine ⟨_, i.number, rfl, rfl, ?_⟩
  have again : d.identity ∈ b.shownDevices.map (·.identity) := same ▸ List.mem_map_of_mem there
  obtain ⟨d', shown, alike⟩ := List.mem_map.mp again
  unfold Bench.shownDevices at shown
  unfold selected?
  cases listed : b.listUsb.1 with
  | error message =>
      rw [listed] at shown
      cases shown
  | ok devices =>
      rw [listed] at shown
      obtain ⟨⟨index, d'⟩, member, rfl⟩ := List.mem_map.mp shown
      obtain ⟨vendor, product, serial⟩ : d'.vendorId = d.vendorId ∧ d'.productId = d.productId ∧
          d'.serialNumber = d.serialNumber := by
        simpa [UsbDevice.identity] using alike
      refine Option.isSome_iff_exists.mp (List.find?_isSome.mpr ⟨_, member, ?_⟩)
      simp [vendor, product, serial]

variable {result : Except TransportError UsbLink} {asked : List BenchEvent}

theorem Outcome.ok_iff (outcome : Outcome s interface timeoutMs b result asked) {link : UsbLink} :
    result = .ok link ↔ ∃ index d input output, selected? s b = some (index, d) ∧
      Claimable interface d input output ∧
      link = ⟨index, input.address, output.address, input.maxPacket, timeoutMs, .empty⟩ := by
  constructor
  · rintro rfl
    cases outcome with
    | claimed selected claimable => exact ⟨_, _, _, _, selected, claimable, rfl⟩
  · rintro ⟨index, d, input, output, selected, claimable, rfl⟩
    cases outcome with
    | absent missing => cases missing.symm.trans selected
    | shut found shut =>
        cases found.symm.trans selected
        cases shut.symm.trans claimable.opens
    | unpaired found unpaired =>
        cases found.symm.trans selected
        exact absurd ⟨claimable.input, claimable.output⟩ (unpaired input output)
    | refused found refused =>
        cases found.symm.trans selected
        cases refused.symm.trans claimable.granted
    | claimed found other =>
        cases found.symm.trans selected
        cases other.input.symm.trans claimable.input
        cases other.output.symm.trans claimable.output
        rfl

theorem Outcome.staysClaimed_iff (outcome : Outcome s interface timeoutMs b result asked)
    {i : UInt8} : StaysClaimed s b asked i ↔ i = interface ∧ ∃ link, result = .ok link := by
  unfold StaysClaimed
  cases outcome with
  | absent missing => simp
  | shut found shut => simp
  | unpaired found unpaired => simp
  | refused found refused =>
      simp [found, refused]
  | claimed found claimable => simp [found, claimable.granted]

end UsbLink

open UsbLink

/-- An opening gives a link exactly if the first device that the selector names opens, has a bulk
endpoint each way in the first setting of the interface, and lets it be claimed; the link uses the
first of these endpoints. Else the failure names the selector. An interface stays claimed only under a
link, and only the one that was selected; and what the same devices offer is always found among them. -/
theorem usb_openings_settle {s : UsbSelector} {interface : UInt8}
    (numbered : s.interface = some interface) (timeoutMs : Nat) (b : Bench) :
    let done := claim s timeoutMs b
    (∀ link, done.1 = .ok link ↔ ∃ index d input output, selected? s b = some (index, d) ∧
      Claimable interface d input output ∧
      link = ⟨index, input.address, output.address, input.maxPacket, timeoutMs, .empty⟩) ∧
    (∀ e, done.1 = .error e → ∃ message, e = .openFailed (Address.usb s).format message) ∧
    (∃ asked, done.2.log = b.log ++ asked ∧
      ∀ i, StaysClaimed s b asked i ↔ i = interface ∧ ∃ link, done.1 = .ok link) ∧
    ∀ earlier : Bench,
      earlier.shownDevices.map (·.identity) = b.shownDevices.map (·.identity) →
      ∀ a ∈ earlier.scanUsb.1, ∃ s' number, a = .usb s' ∧ s'.interface = some number ∧
        ∃ found, selected? s' b = some found := by
  intro done
  obtain ⟨asked, logged, outcome⟩ := claim_outcome numbered timeoutMs b
  refine ⟨fun link => outcome.ok_iff, ?_, ⟨asked, logged, fun i => outcome.staysClaimed_iff⟩, ?_⟩
  · intro e failed
    rw [show (claim s timeoutMs b).1 = .error e from failed] at outcome
    cases outcome <;> exact ⟨_, rfl⟩
  · intro earlier same a candidate
    exact selected?_of_candidate same candidate

/-- Of two devices that nothing tells apart, the first is opened: it has an interrupt endpoint in front
of its bulk ones, of which it has two each way, and other settings around the one that counts. As long
as its interface is in use elsewhere, the opening fails and nothing stays claimed. -/
theorem first_bulk_pair_is_used :
    let s : UsbSelector := ⟨some 0x1209, some 1, some 0, some "SN1"⟩
    let setting : AltSetting := ⟨0, [⟨0x81, .interrupt, 8⟩, ⟨0x02, .bulk, 64⟩, ⟨0x83, .bulk, 512⟩,
      ⟨0x84, .bulk, 64⟩, ⟨0x05, .bulk, 64⟩]⟩
    let device (claims : List (Option String)) : UsbDevice := ⟨0x1209, 1, some "SN1", [⟨0, 255⟩],
      [true, false], [], some [⟨1, [⟨0x81, .bulk, 64⟩]⟩, setting, ⟨0, []⟩], claims, [], []⟩
    let other : UsbDevice := ⟨0x1209, 1, some "SN2", [], [], [], none, [], [], []⟩
    let twin : UsbDevice := ⟨0x1209, 1, some "SN1", [⟨0, 255⟩], [], [], none, [], [], []⟩
    let b (claims : List (Option String)) : Bench :=
      { Bench.empty with usb := [other, device claims, twin] }
    s.interface = some 0 ∧ (claim s 2000 (b [])).1 = .ok ⟨1, 0x83, 0x02, 512, 2000, .empty⟩ ∧
      (∃ message, (claim s 2000 (b [some "busy"])).1 =
        .error (.openFailed "usb@/1209/0001/00/SN1" message)) ∧
      (∃ asked, (claim s 2000 (b [some "busy"])).2.log = asked ∧ .usbClaimed 0 ∈ asked ∧
        ∀ i, ¬StaysClaimed s (b [some "busy"]) asked i) ∧
      .usb s ∈ (b []).scanUsb.1 ∧ ∃ found, selected? s (b [some "busy"]) = some found := by
  intro s setting device other twin b
  have claimable : Claimable 0 (device []) ⟨0x83, .bulk, 512⟩ ⟨0x02, .bulk, 64⟩ :=
    ⟨rfl, rfl, rfl, rfl⟩
  have made := ((usb_openings_settle (s := s) rfl 2000 (b [])).1 _).mpr
    ⟨1, device [], _, _, by decide +kernel, claimable, rfl⟩
  obtain ⟨_, _, ⟨asked, logged, held⟩, lookup⟩ :=
    usb_openings_settle (s := s) rfl 2000 (b [some "busy"])
  have failed : (claim s 2000 (b [some "busy"])).1 =
      .error (.openFailed "usb@/1209/0001/00/SN1" "failed to claim interface: busy") := by
    decide +kernel
  have offered : .usb s ∈ (b []).scanUsb.1 := by decide +kernel
  have found : ∃ found, selected? s (b [some "busy"]) = some found := by
    obtain ⟨s', _, same, _, found⟩ := lookup (b []) (by decide +kernel) _ offered
    cases same
    exact found
  refine ⟨rfl, made, ⟨_, failed⟩, ⟨asked, logged, ?_, ?_⟩, offered, found⟩
  · have whole : asked = (claim s 2000 (b [some "busy"])).2.log := logged.symm
    rw [whole]
    decide +kernel
  · intro i stays
    obtain ⟨_, link, ok⟩ := (held i).mp stays
    cases failed.symm.trans ok

end DeviceConnect
