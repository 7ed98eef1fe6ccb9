import DeviceConnect.Disk.Basic
import DeviceConnect.Disk.Path
import DeviceConnect.Json.Decode
import DeviceConnect.Json.Parser
import DeviceConnect.Json.Printer
import DeviceConnect.Retry
import DeviceConnect.Text.Blank

/-! The workspace's settings: a JSON object in a file. Members that nobody here knows are kept
when it is saved. -/
namespace DeviceConnect

inductive SettingsError where
  | io (path : String) (cause : FileError)
  | parse (path : String) (cause : Json.SyntaxError)
  | value (path key : String) (cause : Json.TypeFault)
  | notAnObject (path : String)
  deriving DecidableEq

def SettingsError.message : SettingsError → String
  | io path cause => "failed to access " ++ path ++ ": " ++ cause.message
  | parse path cause => "failed to parse " ++ path ++ ": " ++ cause.message
  | value path key cause => "invalid `" ++ key ++ "` in " ++ path ++ ": " ++ cause.message
  | notAnObject path => path ++ " is not a JSON object"

structure ConnectDefaults where
  retries : UInt32
  delayMs : UInt64
  allowLegacy : Bool
  deriving DecidableEq

namespace ConnectDefaults

def builtIn : ConnectDefaults := ⟨RetryPolicy.defaultRetries, RetryPolicy.defaultDelayMs, false⟩

def policy (d : ConnectDefaults) : RetryPolicy := .ofMillis d.retries d.delayMs

def retriesKey : String := "retries"
def delayKey : String := "delay_ms"
def legacyKey : String := "allow_legacy_protocol"

def toJson (d : ConnectDefaults) : Json :=
  .obj (Json.Members.ofList [(retriesKey, .int d.retries.toNat), (delayKey, .int d.delayMs.toNat),
    (legacyKey, .bool d.allowLegacy)])

/-- Lays the known members over `d`, in their order; others are skipped. -/
def readMembers (d : ConnectDefaults) : Json.Members → Except Json.TypeFault ConnectDefaults
  | [] => .ok d
  | (key, value) :: rest =>
    if key = retriesKey then do
      let retries ← value.asUInt32
      readMembers { d with retries } rest
    else if key = delayKey then do
      let delayMs ← value.asUInt64
      readMembers { d with delayMs } rest
    else if key = legacyKey then do
      let allowLegacy ← value.asBool
      readMembers { d with allowLegacy } rest
    else readMembers d rest

/-- Reads the fields by position; those missing at the end are built in. -/
def readItems (items : List Json) : Except Json.TypeFault ConnectDefaults := do
  let retries ← (items[0]?.map Json.asUInt32).getD (.ok builtIn.retries)
  let delayMs ← (items[1]?.map Json.asUInt64).getD (.ok builtIn.delayMs)
  let allowLegacy ← (items[2]?.map Json.asBool).getD (.ok builtIn.allowLegacy)
  if 3 < items.length then throw (.tooLong items.length)
  return { retries, delayMs, allowLegacy }

def ofJson : Json.Decoder ConnectDefaults
  | .obj members => readMembers builtIn members
  | .arr items => readItems items
  | other => .error (.wrongType other.shown "struct ConnectDefaults")

end ConnectDefaults

structure Settings where
  path : String
  root : Json.Members

namespace Settings

variable {φ : Type}

def directoryName : String := ".tether"
def fileName : String := "settings.json"

def blacklistKey : String := "blacklist"

def connectKey : String := "connect"

def workspacePath (workspace : String) : String :=
  Path.join (Path.join workspace directoryName) fileName

/-- Reads a file's contents as a document. Blank contents are an empty one. -/
def ofBytes (path : String) (bytes : ByteArray) : Except SettingsError Settings :=
  match String.fromUTF8? bytes with
  | none => .error (.io path .notText)
  | some text =>
    if Text.isBlank text then .ok ⟨path, []⟩
    else match Json.parse text with
      | .error e => .error (.parse path e)
      | .ok (.obj root) => .ok ⟨path, root⟩
      | .ok _ => .error (.notAnObject path)

/-- Opens the document at a path. A missing file is an empty document. -/
def load (disk : Disk φ) (path : String) (files : φ) : Except SettingsError Settings :=
  match disk.read path files with
  | .error .notFound => .ok ⟨path, []⟩
  | .error e => .error (.io path e)
  | .ok bytes => ofBytes path bytes

def forWorkspace (disk : Disk φ) (workspace : String) (files : φ) : Except SettingsError Settings :=
  load disk (workspacePath workspace) files

def get {α} (s : Settings) (decoder : Json.Decoder α) (key : String) :
    Except SettingsError (Option α) :=
  match s.root.find? key with
  | none => .ok none
  | some json => match decoder json with
    | .ok value => .ok (some value)
    | .error e => .error (.value s.path key e)

def set (s : Settings) (key : String) (value : Json) : Settings :=
  { s with root := s.root.insert key value }

def text (s : Settings) : String := (Json.obj s.root).pretty ++ "\n"

/-- Writes the file anew, after the directories that lead to it. -/
def save (disk : Disk φ) (s : Settings) (files : φ) : Except SettingsError Unit × φ :=
  let write (files : φ) : Except SettingsError Unit × φ :=
    match disk.write s.path s.text files with
    | (.ok (), files) => (.ok (), files)
    | (.error e, files) => (.error (.io s.path e), files)
  match Path.parent? s.path with
  | none => write files
  | some directory => match disk.createDirs directory files with
    | (.error e, files) => (.error (.io directory e), files)
    | (.ok (), files) => write files

/-- The connection defaults, built in where the document has none. -/
def connectDefaults (s : Settings) : Except SettingsError ConnectDefaults :=
  (s.get ConnectDefaults.ofJson connectKey).map (·.getD .builtIn)

def setConnect (s : Settings) (d : ConnectDefaults) : Settings := s.set connectKey d.toJson

end Settings
end DeviceConnect
