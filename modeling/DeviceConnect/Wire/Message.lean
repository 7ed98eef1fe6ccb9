import DeviceConnect.Protocol
import DeviceConnect.Wire.Varint

/-! Commands and responses as bytes: a variant's index, then its fields in order. Bytes left
over after a message are ignored by the frame layer. -/
namespace DeviceConnect.Wire

def encodeText (s : String) : Bytes := Varint.encode s.utf8ByteSize ++ s.toByteArray.data.toList

/-- The bytes must be present before they are checked as UTF-8. -/
def decodeText : Reader String := fun bytes =>
  match Varint.decode 64 bytes with
  | .error fault => .error fault
  | .ok (size, rest) =>
    if rest.length < size then .error .endOfInput
    else match String.fromUTF8? ⟨(rest.take size).toArray⟩ with
      | some text => .ok (text, rest.drop size)
      | none => .error .badText

def encodeMode : FirmwareMode → Bytes
  | .normal => Varint.encode 0
  | .bootloader => Varint.encode 1

def decodeMode : Reader FirmwareMode := fun bytes => do
  match ← Varint.decode 32 bytes with
  | (0, rest) => return (.normal, rest)
  | (1, rest) => return (.bootloader, rest)
  | _ => throw .badValue

def encodeStatus : AckStatus → Bytes
  | .ok => Varint.encode 0
  | .badCommand => Varint.encode 1
  | .badState => Varint.encode 2

def decodeStatus : Reader AckStatus := fun bytes => do
  match ← Varint.decode 32 bytes with
  | (0, rest) => return (.ok, rest)
  | (1, rest) => return (.badCommand, rest)
  | (2, rest) => return (.badState, rest)
  | _ => throw .badValue

def encodeHello (h : DeviceHello) : Bytes :=
  Varint.encode h.protocolVersion.toNat ++ encodeMode h.mode ++
  encodeText h.serialNumber.text ++ Varint.encode h.firmwareVersion.toNat

def decodeHello : Reader DeviceHello := fun bytes => do
  let (version, bytes) ← Varint.decode 16 bytes
  let (mode, bytes) ← decodeMode bytes
  let (text, bytes) ← decodeText bytes
  match SerialNumber.ofText? text with
  | none => throw .badValue
  | some serial =>
    let (firmware, bytes) ← Varint.decode 32 bytes
    return (⟨UInt16.ofNat version, mode, serial, UInt32.ofNat firmware⟩, bytes)

def encodeCommand : Command → Bytes
  | .hello version => Varint.encode 0 ++ Varint.encode version.toNat
  | .ping => Varint.encode 1
  | .reset => Varint.encode 2
  | .resetToBootloader => Varint.encode 3

def decodeCommand : Reader Command := fun bytes => do
  match ← Varint.decode 32 bytes with
  | (0, rest) =>
    let (version, rest) ← Varint.decode 16 rest
    return (.hello (UInt16.ofNat version), rest)
  | (1, rest) => return (.ping, rest)
  | (2, rest) => return (.reset, rest)
  | (3, rest) => return (.resetToBootloader, rest)
  | _ => throw .badValue

def encodeResponse : Response → Bytes
  | .hello identity => Varint.encode 0 ++ encodeHello identity
  | .pong => Varint.encode 1
  | .ack status => Varint.encode 2 ++ encodeStatus status

def decodeResponse : Reader Response := fun bytes => do
  match ← Varint.decode 32 bytes with
  | (0, rest) =>
    let (identity, rest) ← decodeHello rest
    return (.hello identity, rest)
  | (1, rest) => return (.pong, rest)
  | (2, rest) =>
    let (status, rest) ← decodeStatus rest
    return (.ack status, rest)
  | _ => throw .badValue

end DeviceConnect.Wire
