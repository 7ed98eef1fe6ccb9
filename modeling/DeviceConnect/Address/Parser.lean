import DeviceConnect.Address.Basic
import DeviceConnect.Text.Split

/-! Reading an address. Each refusal names its cause, and the segment count is checked before
the segments, the segments from left to right. -/
namespace DeviceConnect

inductive HexField where
  | vendor
  | product
  | interface
  deriving DecidableEq

namespace HexField

def label : HexField → String
  | vendor => "vendor id"
  | product => "product id"
  | interface => "interface number"

def digits : HexField → Nat
  | vendor | product => 4
  | interface => 2

end HexField

inductive AddressFault where
  | missingSeparator
  | tooManySegments
  | notHex (field : HexField)
  | tooWide (field : HexField)
  deriving DecidableEq

def AddressFault.message : AddressFault → String
  | missingSeparator => "usb selector must start with `/`"
  | tooManySegments =>
    "too many segments (usb addresses have at most " ++ toString Address.usbSegments ++ ")"
  | notHex field => field.label ++ " is not a hexadecimal value"
  | tooWide field => field.label ++ " is wider than " ++ toString field.digits ++ " hex digits"

structure AddressError where
  text : String
  fault : AddressFault
  deriving DecidableEq

def AddressError.message (e : AddressError) : String :=
  "invalid device address `" ++ e.text ++ "`: " ++ e.fault.message

namespace Address

/-- A hexadecimal segment: empty is a wildcard, a foreign character is reported before a width. -/
def hexSegment (field : HexField) (segment : List Char) : Except AddressFault (Option Nat) :=
  if segment.isEmpty then .ok none
  else match Hex.value? segment with
    | none => .error (.notHex field)
    | some value => if field.digits < segment.length then .error (.tooWide field) else .ok (some value)

def readSelector : List Char → Except AddressFault UsbSelector
  | [] => .ok .wildcard
  | '/' :: body => do
    let parts := Text.split '/' body
    if usbSegments < parts.length then throw .tooManySegments
    let part (i : Nat) : List Char := parts[i]?.getD []
    let vendor ← hexSegment .vendor (part 0)
    let product ← hexSegment .product (part 1)
    let interface ← hexSegment .interface (part 2)
    return {
      vendorId := vendor.map UInt16.ofNat
      productId := product.map UInt16.ofNat
      interface := interface.map UInt8.ofNat
      serialNumber := nonEmpty? (String.ofList (part 3)) }
  | _ => .error .missingSeparator

/-- Reads an address. Only a USB selector can be refused; a text without a tag is a host path. -/
def parse (text : String) : Except AddressError Address :=
  if text = "" then .ok any
  else match Transport.usb.tag.toList.isPrefixOf? text.toList with
    | some rest => match readSelector rest with
      | .ok selector => .ok (usb selector)
      | .error fault => .error ⟨text, fault⟩
    | none => match Transport.serial.tag.toList.isPrefixOf? text.toList with
      | some rest => .ok (serial (nonEmpty? (String.ofList rest)))
      | none => .ok (host text)

end Address
end DeviceConnect
