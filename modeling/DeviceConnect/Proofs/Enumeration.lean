import DeviceConnect.Bench.Enumerate
import DeviceConnect.Proofs.Address

/-! What a bench offers, from what its listings show. Each transport is offered from its own listing
alone. What is offered is read back from its text; yet a port without a name is offered as if any
port would do, so the addresses are full only as long as every port has a name. -/
namespace DeviceConnect

/-- Whether a listing may show the transport. -/
def Allows (filter : Option Transport) (transport : Transport) : Prop :=
  ∀ only ∈ filter, transport = only

instance (filter : Option Transport) (transport : Transport) : Decidable (Allows filter transport) :=
  inferInstanceAs (Decidable (∀ only ∈ filter, transport = only))

namespace Bench

/-! ### What the listings show -/

/-- What a listing of USB devices shows; nothing if it fails. -/
def shownDevices (b : Bench) : List UsbDevice :=
  match b.listUsb.1 with
  | .ok devices => devices.map Prod.snd
  | .error _ => []

/-- What a listing of ports shows; nothing if it fails. -/
def shownPorts (b : Bench) : List SerialPort :=
  match b.listSerial.1 with
  | .ok ports => ports
  | .error _ => []

theorem shownPorts_listUsb (b : Bench) : b.listUsb.2.shownPorts = b.shownPorts := by
  have same : b.listUsb.2.serialError = b.serialError ∧ b.listUsb.2.serial = b.serial := by
    unfold listUsb
    dsimp only
    split <;> exact ⟨rfl, rfl⟩
  unfold shownPorts listSerial record
  rw [same.1, same.2]
  cases b.serialError <;> rfl

theorem shownDevices_of_failure {b : Bench} {message : String}
    (fails : b.listUsb.1 = .error message) : b.shownDevices = [] := by
  rw [shownDevices, fails]

theorem shownPorts_of_failure {b : Bench} {message : String}
    (fails : b.listSerial.1 = .error message) : b.shownPorts = [] := by
  rw [shownPorts, fails]

/-- The interfaces that a filter lets through, each with its device, in the order of the listing. -/
def interfaces (filter : Option Transport) (b : Bench) : List (UsbDevice × UsbInterface) :=
  if Allows filter .usb then b.shownDevices.flatMap fun d => d.interfaces.map (d, ·) else []

/-- The ports that a filter lets through, in the order of the listing. -/
def ports (filter : Option Transport) (b : Bench) : List SerialPort :=
  if Allows filter .serial then b.shownPorts else []

/-! ### What is made of it -/

/-- Whether an interface is the vendor's own, and its device has a serial number that an address can
carry. -/
def Addressable (shown : UsbDevice × UsbInterface) : Prop :=
  shown.2.interfaceClass = 255 ∧ ∃ text ∈ shown.1.serialNumber, text ≠ "" ∧ '/' ∉ text.toList

instance : DecidablePred Addressable := fun shown =>
  inferInstanceAs (Decidable (shown.2.interfaceClass = 255 ∧
    ∃ text ∈ shown.1.serialNumber, text ≠ "" ∧ '/' ∉ text.toList))

def interfaceAddress (shown : UsbDevice × UsbInterface) : Address :=
  .usb ⟨some shown.1.vendorId, some shown.1.productId, some shown.2.number, shown.1.serialNumber⟩

def portAddress (p : SerialPort) : Address := .serial (if p.name = "" then none else some p.name)

theorem usableSerial?_eq_some {serialNumber : Option String} {text : String} :
    usableSerial? serialNumber = some text ↔
      serialNumber = some text ∧ text ≠ "" ∧ '/' ∉ text.toList := by
  rw [usableSerial?, Option.filter_eq_some_iff]
  simp

theorem usbCandidates_eq (d : UsbDevice) :
    usbCandidates d = ((d.interfaces.map (d, ·)).filter Addressable).map interfaceAddress := by
  rw [List.filter_map, List.map_map, usbCandidates]
  cases usable : usableSerial? d.serialNumber with
  | none =>
      have none_ : (d.interfaces.filter fun i => Addressable (d, i)) = [] := by
        refine List.filter_eq_nil_iff.mpr fun i _ addressable => ?_
        obtain ⟨_, text, reported, carried⟩ := of_decide_eq_true addressable
        rw [usableSerial?_eq_some.mpr ⟨reported, carried⟩] at usable
        cases usable
      simp only [Function.comp_def, none_]
      rfl
  | some text =>
      obtain ⟨reported, carried⟩ := usableSerial?_eq_some.mp usable
      have vendors : ∀ i, Addressable (d, i) ↔ i.interfaceClass = vendorSpecificClass :=
        fun i => and_iff_left ⟨text, reported, carried⟩
      have written : (some text).bind nonEmpty? = d.serialNumber :=
        (if_neg carried.1).trans reported.symm
      simp only [Function.comp_def, vendors, Address.ofUsb, written]
      rfl

theorem scanUsb_eq (b : Bench) :
    b.scanUsb = (((b.shownDevices.flatMap fun d => d.interfaces.map (d, ·)).filter
      Addressable).map interfaceAddress, b.listUsb.2) := by
  unfold scanUsb shownDevices
  rcases b.listUsb with ⟨e | devices, b⟩
  · rfl
  · simp [List.filter_flatMap, List.map_flatMap, List.flatMap_map, usbCandidates_eq]

theorem scanSerial_eq (b : Bench) :
    b.scanSerial = (b.shownPorts.map portAddress, b.listSerial.2) := by
  unfold scanSerial shownPorts
  rcases b.listSerial with ⟨e | ports, b⟩
  · rfl
  · rfl

theorem enumerate_eq (filter : Option Transport) (b : Bench) :
    (b.enumerate filter).1 = ((b.interfaces filter).filter Addressable).map interfaceAddress ++
      (b.ports filter).map portAddress := by
  unfold enumerate
  rcases filter with _ | _ | _
  · simp only [scanUsb_eq, scanSerial_eq, shownPorts_listUsb]
    rfl
  · rw [scanUsb_eq]
    exact (List.append_nil _).symm
  · rw [scanSerial_eq]
    rfl

/-! ### What its addresses are good for -/

theorem isFull_of_addressable {shown : UsbDevice × UsbInterface} (addressable : Addressable shown) :
    (interfaceAddress shown).isFull = true := by
  obtain ⟨_, text, reported, _⟩ := addressable
  rw [interfaceAddress, Option.mem_def.mp reported]
  rfl

theorem isFull_portAddress_iff (p : SerialPort) : (portAddress p).isFull = true ↔ p.name ≠ "" := by
  unfold portAddress
  by_cases nameless : p.name = ""
  · simp [nameless, Address.isFull]
  · simp [nameless, Address.isFull]

theorem canonical_of_addressable {shown : UsbDevice × UsbInterface}
    (addressable : Addressable shown) : (interfaceAddress shown).Canonical := by
  obtain ⟨_, text, reported, carried⟩ := addressable
  intro other same
  cases reported.symm.trans same
  exact carried

theorem canonical_portAddress (p : SerialPort) : (portAddress p).Canonical := by
  unfold portAddress
  split
  · exact nofun
  · next named =>
      rintro text ⟨⟩
      exact named

theorem mem_enumerate {filter : Option Transport} {b : Bench} {a : Address} :
    a ∈ (b.enumerate filter).1 ↔
      (∃ shown ∈ b.interfaces filter, Addressable shown ∧ interfaceAddress shown = a) ∨
        ∃ p ∈ b.ports filter, portAddress p = a := by
  simp [enumerate_eq, and_assoc]

theorem allows_of_mem_interfaces {filter : Option Transport} {b : Bench}
    {shown : UsbDevice × UsbInterface} (member : shown ∈ b.interfaces filter) :
    Allows filter .usb := by
  unfold interfaces at member
  split at member
  · assumption
  · cases member

theorem allows_of_mem_ports {filter : Option Transport} {b : Bench} {p : SerialPort}
    (member : p ∈ b.ports filter) : Allows filter .serial := by
  unfold ports at member
  split at member
  · assumption
  · cases member

/-- A bench offers every addressable interface and every port that its listings show, in their order
and once each, and nothing else; where one listing fails, what the other shows is offered all the same.
What is offered is of a transport that the filter allows, and its text leads back to it. It is full
exactly as long as every port that is offered has a name. -/
theorem enumerate_offers_shown (filter : Option Transport) (b : Bench) :
    let found := (b.enumerate filter).1
    let fromUsb := ((b.interfaces filter).filter Addressable).map interfaceAddress
    let fromSerial := (b.ports filter).map portAddress
    found = fromUsb ++ fromSerial ∧
      (∀ message, b.listUsb.1 = .error message → found = fromSerial) ∧
      (∀ message, b.listSerial.1 = .error message → found = fromUsb) ∧
      (∀ a ∈ found, (∃ transport, a.transport = some transport ∧ Allows filter transport) ∧
        Address.parse a.format = .ok a) ∧
      ((∀ a ∈ found, a.isFull = true) ↔ ∀ p ∈ b.ports filter, p.name ≠ "") := by
  refine ⟨enumerate_eq filter b, ?_, ?_, ?_, ?_, ?_⟩
  · intro message fails
    rw [enumerate_eq, interfaces, shownDevices_of_failure fails, List.flatMap_nil, ite_self]
    rfl
  · intro message fails
    rw [enumerate_eq, ports, shownPorts_of_failure fails, ite_self]
    exact List.append_nil _
  · intro a member
    rcases mem_enumerate.mp member with ⟨shown, listed, addressable, rfl⟩ | ⟨p, listed, rfl⟩
    · exact ⟨⟨.usb, rfl, allows_of_mem_interfaces listed⟩,
        Address.parse_format (canonical_of_addressable addressable)⟩
    · exact ⟨⟨.serial, rfl, allows_of_mem_ports listed⟩,
        Address.parse_format (canonical_portAddress p)⟩
  · intro full p listed
    exact (isFull_portAddress_iff p).mp (full _ (mem_enumerate.mpr (.inr ⟨p, listed, rfl⟩)))
  · intro named a member
    rcases mem_enumerate.mp member with ⟨shown, _, addressable, rfl⟩ | ⟨p, listed, rfl⟩
    · exact isFull_of_addressable addressable
    · exact (isFull_portAddress_iff p).mpr (named p listed)

/-- A port without a name is offered as any port at all. -/
theorem nameless_port_is_any_port :
    let b : Bench := { Bench.empty with serial := [⟨"", [], [], [], [], []⟩] }
    (b.enumerate (some .serial)).1 = [.serial none] ∧ (Address.serial none).isFull = false := by
  decide

end Bench
end DeviceConnect
