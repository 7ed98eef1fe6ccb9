/-! JSON values. Members of an object are held once each, in the order of their keys' bytes. -/
namespace DeviceConnect

/-- A JSON value. Integers lie between -2^63 and 2^64 - 1; any other number is a double, held
by its bit pattern. -/
inductive Json where
  | null
  | bool (value : Bool)
  | int (value : Int)
  | double (bits : UInt64)
  | str (text : String)
  | arr (items : List Json)
  | obj (members : List (String × Json))
  deriving Inhabited, BEq

namespace Json

abbrev Members := List (String × Json)

def Members.find? (members : Members) (key : String) : Option Json :=
  match members with
  | [] => none
  | (k, value) :: rest => if k = key then some value else Members.find? rest key

/-- Sets a member; keys stay in rising order, and a second value for a key replaces the first. -/
def Members.insert (members : Members) (key : String) (value : Json) : Members :=
  match members with
  | [] => [(key, value)]
  | (k, old) :: rest =>
    if key = k then (key, value) :: rest
    else if key < k then (key, value) :: (k, old) :: rest
    else (k, old) :: Members.insert rest key value

def Members.ofList (pairs : List (String × Json)) : Members :=
  pairs.foldl (fun members (key, value) => members.insert key value) []

def minInt : Int := -9223372036854775808
def maxInt : Int := 18446744073709551615

end Json
end DeviceConnect
