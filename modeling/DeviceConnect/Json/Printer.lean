import DeviceConnect.Json.Number
import DeviceConnect.Text.Hex

/-! JSON as it is saved: one item a line, two blanks a level, a text that is read back as the
same value. -/
namespace DeviceConnect.Json

/-- One character inside quotes. Only quotes, backslashes and controls are escaped. -/
def writeChar (c : Char) : List Char :=
  if c = '"' then ['\\', '"']
  else if c = '\\' then ['\\', '\\']
  else if c = '\x08' then ['\\', 'b']
  else if c = '\x0c' then ['\\', 'f']
  else if c = '\n' then ['\\', 'n']
  else if c = '\r' then ['\\', 'r']
  else if c = '\t' then ['\\', 't']
  else if c.toNat < 0x20 then ['\\', 'u', '0', '0'] ++ Hex.byte (UInt8.ofNat c.toNat)
  else [c]

def writeString (text : String) : List Char := '"' :: text.toList.flatMap writeChar ++ ['"']

def newLine (level : Nat) : List Char := '\n' :: List.replicate (2 * level) ' '

mutual

def write (level : Nat) : Json → List Char
  | null => ['n', 'u', 'l', 'l']
  | bool true => ['t', 'r', 'u', 'e']
  | bool false => ['f', 'a', 'l', 's', 'e']
  | int n => intText n
  | double bits => doubleText bits
  | str text => writeString text
  | arr [] => ['[', ']']
  | arr (first :: more) =>
    '[' :: newLine (level + 1) ++ write (level + 1) first ++ writeItems (level + 1) more ++
      newLine level ++ [']']
  | obj [] => ['\x7b', '\x7d']
  | obj ((key, first) :: more) =>
    '\x7b' :: newLine (level + 1) ++ writeString key ++ ':' :: ' ' :: write (level + 1) first ++
      writeMembers (level + 1) more ++ newLine level ++ ['\x7d']

def writeItems (level : Nat) : List Json → List Char
  | [] => []
  | first :: more => ',' :: newLine level ++ write level first ++ writeItems level more

def writeMembers (level : Nat) : List (String × Json) → List Char
  | [] => []
  | (key, first) :: more =>
    ',' :: newLine level ++ writeString key ++ ':' :: ' ' :: write level first ++
      writeMembers level more

end

def pretty (json : Json) : String := String.ofList (write 0 json)

end DeviceConnect.Json
