import DeviceConnect.Host

/-! A bench of attached hardware. Every port and device acts by lists of what happens next,
each used from the front; what it does when a list is used up is said with the list. -/
namespace DeviceConnect

inductive PortRead where
  | bytes (data : Bytes)
  | timeout
  | nothing
  | failure (error : IoError)
  deriving DecidableEq

structure SerialPort where
  name : String
  /-- Whether a listing shows the port; shown when used up. -/
  present : List Bool
  openings : List (Option String)
  /-- What reads meet; timeouts when used up. -/
  incoming : List PortRead
  writes : List (Option IoError)
  flushes : List (Option IoError)
  deriving DecidableEq

inductive EndpointKind where
  | bulk
  | interrupt
  | isochronous
  | control
  deriving DecidableEq

structure Endpoint where
  address : UInt8
  kind : EndpointKind
  maxPacket : Nat
  deriving DecidableEq

/-- Bit seven of an endpoint's address: set on those the device sends from. -/
def Endpoint.isIn (e : Endpoint) : Bool := 128 ≤ e.address.toNat

structure AltSetting where
  interface : UInt8
  endpoints : List Endpoint
  deriving DecidableEq

structure UsbInterface where
  number : UInt8
  interfaceClass : UInt8
  deriving DecidableEq

inductive OutTransfer where
  | done
  | failed (message : String)
  | pending
  deriving DecidableEq

inductive InTransfer where
  | data (bytes : Bytes)
  | failed (message : String)
  | pending
  deriving DecidableEq

structure UsbDevice where
  vendorId : UInt16
  productId : UInt16
  serialNumber : Option String
  interfaces : List UsbInterface
  /-- Whether a listing shows the device; shown when used up. -/
  present : List Bool
  openings : List (Option String)
  /-- The alternate settings of the active configuration, if there is one. -/
  configuration : Option (List AltSetting)
  claims : List (Option String)
  /-- How transfers to the device go; well when used up. -/
  outgoing : List OutTransfer
  /-- What transfers from the device bring; the device is gone when used up. -/
  incoming : List InTransfer
  deriving DecidableEq

inductive BenchEvent where
  | listedUsb
  | listedSerial
  | serialOpened (name : String) (timeoutMs : Nat)
  | serialTimeout (ms : Nat)
  | serialWrote (data : Bytes)
  | serialFlushed
  | serialClosed
  | usbOpened (vendorId productId : UInt16)
  | usbClaimed (interface : UInt8)
  | usbOut (endpoint : UInt8) (data : Bytes)
  | usbIn (endpoint : UInt8) (size : Nat)
  | usbCancelled (endpoint : UInt8)
  | usbClosed
  | asked (round : UInt32) (total : Option UInt32)
  | waited (span : Duration)
  deriving DecidableEq

structure Bench where
  usb : List UsbDevice
  /-- Why a USB listing fails; it works when used up. -/
  usbErrors : List (Option String)
  serial : List SerialPort
  serialError : Option String
  clock : Nat
  log : List BenchEvent
  deriving DecidableEq

/-- The first item of a list that may be used up, and what is left of it. -/
def takeNext {α} (fallback : α) : List α → α × List α
  | [] => (fallback, [])
  | x :: rest => (x, rest)

namespace Bench

def empty : Bench := ⟨[], [], [], none, 0, []⟩

def record (event : BenchEvent) (b : Bench) : Bench := { b with log := b.log ++ [event] }

def pass (ms : Nat) (b : Bench) : Bench := { b with clock := b.clock + ms }

def port (b : Bench) (index : Nat) : SerialPort := b.serial.getD index ⟨"", [], [], [], [], []⟩

def setPort (b : Bench) (index : Nat) (port : SerialPort) : Bench :=
  { b with serial := b.serial.set index port }

def device (b : Bench) (index : Nat) : UsbDevice :=
  b.usb.getD index ⟨0, 0, none, [], [], [], none, [], [], []⟩

def setDevice (b : Bench) (index : Nat) (device : UsbDevice) : Bench :=
  { b with usb := b.usb.set index device }

def listUsb (b : Bench) : Except String (List (Nat × UsbDevice)) × Bench :=
  let b := b.record .listedUsb
  let (error, usbErrors) := takeNext none b.usbErrors
  match error with
  | some message => (.error message, { b with usbErrors })
  | none =>
    let shown := b.usb.zipIdx.filter fun (d, _) => (takeNext true d.present).1
    let usb := b.usb.map fun d => { d with present := (takeNext true d.present).2 }
    (.ok (shown.map fun (d, index) => (index, d)), { b with usbErrors, usb })

def listSerial (b : Bench) : Except String (List SerialPort) × Bench :=
  let b := b.record .listedSerial
  match b.serialError with
  | some message => (.error message, b)
  | none =>
    let shown := b.serial.filter fun p => (takeNext true p.present).1
    let serial := b.serial.map fun p => { p with present := (takeNext true p.present).2 }
    (.ok shown, { b with serial })

end Bench
end DeviceConnect
