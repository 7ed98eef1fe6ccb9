import DeviceConnect.CommandLine.Basic

/-! The options that one level of a command line gives. Each is given at most once a level;
of two levels the inner one wins. -/
namespace DeviceConnect

inductive Rejection where
  | unknownArgument
  | unknownTask
  | missingValue
  | badValue
  | repeatedOption
  | unexpectedValue
  | missingTask
  | nothingGiven
  | helpAsked
  deriving DecidableEq

namespace Rejection

def exitCode : Rejection → Nat
  | helpAsked => 0
  | _ => 2

def message : Rejection → String
  | unknownArgument => "unexpected argument"
  | unknownTask => "unrecognized command"
  | missingValue => "an option lacks its value"
  | badValue => "an option has an invalid value"
  | repeatedOption => "an option is given twice"
  | unexpectedValue => "a switch takes no value"
  | missingTask | nothingGiven | helpAsked =>
    "commands: list, ping, status, reset, bootloader, blacklist show, blacklist clear"

end Rejection

inductive Field where
  | device
  | retries
  | delayMs
  | wait
  | workspace
  | transport
  deriving DecidableEq

inductive Switch where
  | legacy
  | verbose
  | quarantine
  | help
  deriving DecidableEq

def digits? (text : List Char) : Option Nat :=
  if text.isEmpty || !text.all Char.isDigit then none
  else some (text.foldl (fun n c => 10 * n + (c.toNat - '0'.toNat)) 0)

def unsigned? : List Char → Option Nat
  | '+' :: rest => digits? rest
  | text => digits? text

/-- A number with an optional sign; a minus sign admits zero alone. -/
def signed? : List Char → Option Nat
  | '-' :: rest => (digits? rest).filter (· = 0)
  | text => unsigned? text

/-- Refuses a number that is not there or not below `limit`. -/
def below (limit : Nat) : Option Nat → Except Rejection Nat
  | some n => if n < limit then .ok n else .error .badValue
  | none => .error .badValue

def readUInt32 (text : String) : Except Rejection UInt32 :=
  (below (Nat.pow 2 32) (signed? text.toList)).map UInt32.ofNat

def readUInt64 (text : String) : Except Rejection UInt64 :=
  (below (Nat.pow 2 64) (unsigned? text.toList)).map UInt64.ofNat

def readTransport (text : String) : Except Rejection Transport :=
  match Transport.ofName text with
  | .ok transport => .ok transport
  | .error _ => .error .badValue

/-- The current directory has a name of its own; an empty one is none. -/
def readWorkspace (text : String) : Except Rejection String :=
  if text = "" then .error .missingValue else .ok text

structure Given where
  device : Option String
  retries : Option UInt32
  delayMs : Option UInt64
  legacy : Bool
  waitSecs : Option UInt64
  workspace : Option String
  verbosity : Nat
  quarantine : Bool
  transport : Option Transport
  deriving DecidableEq

namespace Given

def nothing : Given := ⟨none, none, none, false, none, none, 0, false, none⟩

/-- Fills an empty place; a second value is refused before it is looked at. -/
def fill {α} (place : Option α) (value : Except Rejection α) : Except Rejection (Option α) :=
  if place.isSome then .error .repeatedOption else value.map some

def put (field : Field) (text : String) (g : Given) : Except Rejection Given :=
  match field with
  | .device => (fill g.device (.ok text)).map ({ g with device := · })
  | .retries => (fill g.retries (readUInt32 text)).map ({ g with retries := · })
  | .delayMs => (fill g.delayMs (readUInt64 text)).map ({ g with delayMs := · })
  | .wait => (fill g.waitSecs (readUInt64 text)).map ({ g with waitSecs := · })
  | .workspace => (fill g.workspace (readWorkspace text)).map ({ g with workspace := · })
  | .transport => (fill g.transport (readTransport text)).map ({ g with transport := · })

def maxVerbosity : Nat := 255

/-- Only the verbose switch may be given again. -/
def turnOn (switch : Switch) (g : Given) : Except Rejection Given :=
  match switch with
  | .legacy => if g.legacy then .error .repeatedOption else .ok { g with legacy := true }
  | .verbose => .ok { g with verbosity := min (g.verbosity + 1) maxVerbosity }
  | .quarantine => if g.quarantine then .error .repeatedOption else .ok { g with quarantine := true }
  | .help => .error .helpAsked

/-- What an outer level gives, under what an inner one gives. -/
def under (outer inner : Given) : Given where
  device := inner.device.or outer.device
  retries := inner.retries.or outer.retries
  delayMs := inner.delayMs.or outer.delayMs
  legacy := inner.legacy || outer.legacy
  waitSecs := inner.waitSecs.or outer.waitSecs
  workspace := inner.workspace.or outer.workspace
  verbosity := if inner.verbosity = 0 then outer.verbosity else inner.verbosity
  quarantine := inner.quarantine || outer.quarantine
  transport := inner.transport.or outer.transport

def currentDirectory : String := "."

def commandLine (g : Given) (task : Task) : CommandLine where
  device := g.device.getD ""
  retries := g.retries
  delayMs := g.delayMs
  legacy := g.legacy
  waitSecs := g.waitSecs
  workspace := g.workspace.getD currentDirectory
  verbosity := g.verbosity
  task := task

end Given
end DeviceConnect
