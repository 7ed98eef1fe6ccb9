import DeviceConnect.Json.Number
import DeviceConnect.Text.Quoted

/-! Typed reading of JSON values. A mismatch says what was found and what was wanted. -/
namespace DeviceConnect.Json

inductive TypeFault where
  | wrongType (found : String) (want : String)
  | outOfRange (found : Int) (want : String)
  | tooLong (length : Nat)
  deriving DecidableEq

def TypeFault.message : TypeFault → String
  | wrongType found want => "invalid type: " ++ found ++ ", expected " ++ want
  | outOfRange found want =>
    "invalid value: integer `" ++ String.ofList (intText found) ++ "`, expected " ++ want
  | tooLong length => "invalid length " ++ toString length ++ ", expected fewer elements in array"

def shown : Json → String
  | null => "null"
  | bool value => "boolean `" ++ toString value ++ "`"
  | int n => "integer `" ++ String.ofList (intText n) ++ "`"
  | double bits => "floating point `" ++ String.ofList (doubleText bits) ++ "`"
  | str text => "string " ++ Text.quoted text
  | arr _ => "sequence"
  | obj _ => "map"

abbrev Decoder (α : Type) := Json → Except TypeFault α

def asString : Decoder String
  | str text => .ok text
  | other => .error (.wrongType other.shown "a string")

def asBool : Decoder Bool
  | bool value => .ok value
  | other => .error (.wrongType other.shown "a boolean")

def asNat (bits : Nat) (want : String) : Decoder Nat
  | int n => if 0 ≤ n ∧ n < Nat.pow 2 bits then .ok n.toNat else .error (.outOfRange n want)
  | other => .error (.wrongType other.shown want)

def asUInt32 : Decoder UInt32 := fun json => (asNat 32 "u32" json).map UInt32.ofNat
def asUInt64 : Decoder UInt64 := fun json => (asNat 64 "u64" json).map UInt64.ofNat

/-- A list of texts; the first item that is none is reported. -/
def asStrings : Decoder (List String)
  | arr items => items.mapM asString
  | other => .error (.wrongType other.shown "a sequence")

end DeviceConnect.Json
