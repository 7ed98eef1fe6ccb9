import DeviceConnect.Text.Quoted

/-! The handshake protocol: what a host asks, what a device answers. -/
namespace DeviceConnect

namespace Protocol

def version : UInt16 := 2

def legacyVersion : UInt16 := 1

def maxSerialBytes : Nat := 32

def maxFrameBytes : Nat := 128

end Protocol

inductive FirmwareMode where
  | normal
  | bootloader
  deriving DecidableEq

def FirmwareMode.name : FirmwareMode → String
  | normal => "Normal"
  | bootloader => "Bootloader"

inductive AckStatus where
  | ok
  | badCommand
  | badState
  deriving DecidableEq

def AckStatus.name : AckStatus → String
  | ok => "Ok"
  | badCommand => "BadCommand"
  | badState => "BadState"

inductive Command where
  | hello (protocolVersion : UInt16)
  | ping
  | reset
  | resetToBootloader
  deriving DecidableEq

structure SerialNumber where
  text : String
  fits : text.utf8ByteSize ≤ Protocol.maxSerialBytes
  deriving DecidableEq

namespace SerialNumber

def ofText? (text : String) : Option SerialNumber :=
  if h : text.utf8ByteSize ≤ Protocol.maxSerialBytes then some ⟨text, h⟩ else none

def empty : SerialNumber := ⟨"", by decide⟩

end SerialNumber

structure DeviceHello where
  protocolVersion : UInt16
  mode : FirmwareMode
  serialNumber : SerialNumber
  firmwareVersion : UInt32
  deriving DecidableEq

inductive Response where
  | hello (identity : DeviceHello)
  | pong
  | ack (status : AckStatus)
  deriving DecidableEq

def Response.describe : Response → String
  | hello identity =>
    "Hello(DeviceHello \x7b protocol_version: " ++ toString identity.protocolVersion ++
    ", mode: " ++ identity.mode.name ++
    ", serial_number: " ++ Text.quoted identity.serialNumber.text ++
    ", firmware_version: " ++ toString identity.firmwareVersion ++ " \x7d)"
  | pong => "Pong"
  | ack status => "Ack(" ++ status.name ++ ")"

end DeviceConnect
