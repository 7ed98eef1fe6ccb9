import DeviceConnect.Text.Hex
import DeviceConnect.Text.Unprintable

/-! Quoted text for error messages: what cannot be seen is written as an escape. -/
namespace DeviceConnect.Text

def escape (c : Char) : List Char :=
  if c = '\x00' then ['\\', '0']
  else if c = '\t' then ['\\', 't']
  else if c = '\r' then ['\\', 'r']
  else if c = '\n' then ['\\', 'n']
  else if c = '"' then ['\\', '"']
  else if c = '\\' then ['\\', '\\']
  else if isUnprintable c then ['\\', 'u', '\x7b'] ++ Hex.lower c.toNat ++ ['\x7d']
  else [c]

/-- The text between double quotes. An apostrophe stays as it is. -/
def quoted (s : String) : String :=
  String.ofList ('"' :: s.toList.flatMap escape ++ ['"'])

end DeviceConnect.Text
