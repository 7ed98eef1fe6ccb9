import DeviceConnect.Bench.Hardware
import DeviceConnect.Wire.Frame

/-! USB links: a claimed interface with one bulk endpoint in each direction. -/
namespace DeviceConnect

/-- A claimed interface: its device's place on the bench, its endpoints, and the bytes of the
frame under way. -/
structure UsbLink where
  device : Nat
  inEndpoint : UInt8
  outEndpoint : UInt8
  maxPacket : Nat
  timeoutMs : Nat
  received : Wire.FrameBuffer
  deriving DecidableEq

namespace UsbLink

def names (s : UsbSelector) (d : UsbDevice) : Bool :=
  s.vendorId = some d.vendorId && s.productId = some d.productId && s.serialNumber = d.serialNumber

/-- The first bulk endpoint of each direction in the first setting of an interface. -/
def bulkPair? (interface : UInt8) (settings : List AltSetting) : Option (Endpoint × Endpoint) := do
  let setting ← settings.find? (·.interface = interface)
  let bulk := setting.endpoints.filter (·.kind = .bulk)
  let input ← bulk.find? (·.isIn)
  let output ← bulk.find? (!·.isIn)
  return (input, output)

/-- Finds the selected device, opens it and claims its interface. -/
def claim (s : UsbSelector) (timeoutMs : Nat) (b : Bench) : Except TransportError UsbLink × Bench :=
  let failed (message : String) : Except TransportError UsbLink :=
    .error (.openFailed (Address.usb s).format message)
  match s.interface with
  | none => (failed "no interface number", b)
  | some interface =>
    match b.listUsb with
    | (.error message, b) => (failed message, b)
    | (.ok devices, b) =>
      match devices.find? fun (_, d) => names s d with
      | none => (failed "device not present", b)
      | some (index, _) =>
        let b := b.record (.usbOpened (b.device index).vendorId (b.device index).productId)
        let d := b.device index
        let (refusal, openings) := takeNext none d.openings
        let b := b.setDevice index { d with openings }
        match refusal with
        | some message => (failed message, b)
        | none =>
          match d.configuration.bind (bulkPair? interface) with
          | none =>
            (failed ("interface " ++ toString interface ++ " has no bulk endpoint pair"), b)
          | some (input, output) =>
            let b := b.record (.usbClaimed interface)
            let d := b.device index
            let (refusal, claims) := takeNext none d.claims
            let b := b.setDevice index { d with claims }
            match refusal with
            | some message => (failed ("failed to claim interface: " ++ message), b)
            | none =>
              (.ok ⟨index, input.address, output.address, input.maxPacket, timeoutMs, .empty⟩, b)

def transferError (message : String) : TransportError := .io ⟨.other, message⟩

/-- Sends a packet. One that does not complete is cancelled when the timeout has passed. -/
def writePacket (data : Bytes) (link : UsbLink) (b : Bench) : Except TransportError Unit × Bench :=
  let b := b.record (.usbOut link.outEndpoint data)
  let d := b.device link.device
  let (transfer, outgoing) := takeNext .done d.outgoing
  let b := b.setDevice link.device { d with outgoing }
  match transfer with
  | .done => (.ok (), b)
  | .failed message => (.error (transferError message), b)
  | .pending => (.error .timeout, (b.pass link.timeoutMs).record (.usbCancelled link.outEndpoint))

def readPackets (link : UsbLink) (buffer : Wire.FrameBuffer) : List InTransfer → Bench →
    Except TransportError Response × Wire.FrameBuffer × Bench
  | [], b =>
    (.error (transferError "device disconnected"), buffer, b.record (.usbIn link.inEndpoint link.maxPacket))
  | transfer :: rest, b =>
    let d := b.device link.device
    let b := (b.setDevice link.device { d with incoming := rest }).record
      (.usbIn link.inEndpoint link.maxPacket)
    match transfer with
    | .pending =>
      (.error .timeout, buffer, (b.pass link.timeoutMs).record (.usbCancelled link.inEndpoint))
    | .failed message => (.error (transferError message), buffer, b)
    | .data bytes =>
      match buffer.push bytes with
      | (.error e, buffer) => (.error (.frame e.message), buffer, b)
      | (.ok none, buffer) => readPackets link buffer rest b
      | (.ok (some length), buffer) =>
        match buffer.decode length with
        | .ok response => (.ok response, buffer, b)
        | .error e => (.error (.frame e.message), buffer, b)

/-- Reads one answer into an empty buffer. Without time left nothing is asked for. -/
def receive (link : UsbLink) (b : Bench) : Except TransportError Response × UsbLink × Bench :=
  if link.timeoutMs = 0 then (.error .timeout, { link with received := .empty }, b)
  else
    let (answer, received, b) := readPackets link .empty (b.device link.device).incoming b
    (answer, { link with received }, b)

def request (command : Command) (link : UsbLink) (b : Bench) :
    Except TransportError Response × UsbLink × Bench :=
  match link.writePacket (Wire.encodeFrame command) b with
  | (.error e, b) => (.error e, link, b)
  | (.ok (), b) => link.receive b

end UsbLink
end DeviceConnect
