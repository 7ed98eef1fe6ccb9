import DeviceConnect.Text.Hex

/-! Device addresses: what they select, their canonical text, and when a specification
selects a candidate. An absent field is a wildcard; a candidate has none. -/
namespace DeviceConnect

inductive Transport where
  | usb
  | serial
  deriving DecidableEq

namespace Transport

def name : Transport → String
  | usb => "usb"
  | serial => "serial"

def tag : Transport → String
  | usb => "usb@"
  | serial => "serial@"

/-- A word that names no transport, in lower case. -/
structure Unknown where
  word : String
  deriving DecidableEq

def Unknown.message (unknown : Unknown) : String :=
  "unknown transport `" ++ unknown.word ++ "` (expected usb or serial)"

def ofName (text : String) : Except Unknown Transport :=
  match text.map Char.toLower with
  | "usb" => .ok usb
  | "serial" => .ok serial
  | word => .error ⟨word⟩

end Transport

structure UsbSelector where
  vendorId : Option UInt16
  productId : Option UInt16
  interface : Option UInt8
  serialNumber : Option String
  deriving DecidableEq

/-- A device locator. `host` is an unmarked path and selects no enumerated device. -/
inductive Address where
  | any
  | usb (selector : UsbSelector)
  | serial (path : Option String)
  | host (path : String)
  deriving DecidableEq, Inhabited

def nonEmpty? (text : String) : Option String := if text = "" then none else some text

def fieldMatches {α} [DecidableEq α] (want found : Option α) : Bool :=
  match want with
  | none => true
  | some value => found = some value

namespace UsbSelector

def wildcard : UsbSelector := ⟨none, none, none, none⟩

def isFull (s : UsbSelector) : Bool :=
  s.vendorId.isSome && s.productId.isSome && s.interface.isSome && s.serialNumber.isSome

def selects (s candidate : UsbSelector) : Bool :=
  fieldMatches s.vendorId candidate.vendorId &&
  fieldMatches s.productId candidate.productId &&
  fieldMatches s.interface candidate.interface &&
  fieldMatches s.serialNumber candidate.serialNumber

end UsbSelector

namespace Address

def usbSegments : Nat := 4

/-- A USB address; an empty serial number is a wildcard. -/
def ofUsb (vendorId productId : Option UInt16) (interface : Option UInt8)
    (serialNumber : Option String) : Address :=
  .usb ⟨vendorId, productId, interface, serialNumber.bind nonEmpty?⟩

def ofSerial (path : Option String) : Address := .serial (path.bind nonEmpty?)

def transport : Address → Option Transport
  | usb _ => some .usb
  | serial _ => some .serial
  | any | host _ => none

def isAny : Address → Bool
  | any => true
  | _ => false

def isHost : Address → Bool
  | host _ => true
  | _ => false

/-- No field that applies to the transport is a wildcard. -/
def isFull : Address → Bool
  | any => false
  | usb selector => selector.isFull
  | serial path => path.isSome
  | host _ => true

def isPartial (a : Address) : Bool := !a.isFull

def usbSerialNumber : Address → Option String
  | usb selector => selector.serialNumber
  | _ => none

/-- A hexadecimal field at its full width, behind its separator; a wildcard leaves it empty. -/
def hexField (width : Nat) : Option Nat → List Char
  | some value => '/' :: Hex.upper width value
  | none => ['/']

def selectorText (s : UsbSelector) : List Char :=
  hexField 4 (s.vendorId.map UInt16.toNat) ++
  hexField 4 (s.productId.map UInt16.toNat) ++
  hexField 2 (s.interface.map UInt8.toNat) ++
  '/' :: (s.serialNumber.getD "").toList

/-- The canonical text. The blacklist holds these texts. -/
def format : Address → String
  | any => ""
  | usb selector => String.ofList (Transport.usb.tag.toList ++ selectorText selector)
  | serial path => String.ofList (Transport.serial.tag.toList ++ (path.getD "").toList)
  | host path => path

/-- Whether the specification `spec` selects `candidate`: a full, enumerable address whose
fields equal the concrete fields of `spec`. -/
def selects (spec candidate : Address) : Bool :=
  candidate.isFull && !candidate.isHost &&
  match spec, candidate with
  | any, _ => true
  | usb want, usb found => want.selects found
  | serial want, serial found => fieldMatches want found
  | _, _ => false

end Address
end DeviceConnect
