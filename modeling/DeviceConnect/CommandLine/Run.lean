import DeviceConnect.CommandLine.Failure
import DeviceConnect.CommandLine.Given
import DeviceConnect.Coordinator

/-! Carrying out a command line: its settings are read before anything else happens, its lines
are collected, and whatever it opened is closed at its end. -/
namespace DeviceConnect

structure Report where
  lines : List String
  failure : Option TaskFailure
  deriving DecidableEq

namespace Report

def done (lines : List String) : Report := ⟨lines, none⟩
def failed (lines : List String) (failure : TaskFailure) : Report := ⟨lines, some failure⟩

def text (report : Report) : String := String.join (report.lines.map (· ++ "\n"))

end Report

inductive Mark where
  | eligible
  | blacklisted
  | noMatch
  deriving DecidableEq

namespace Mark

def note : Mark → String
  | eligible => ""
  | blacklisted => "  [blacklisted]"
  | noMatch => "  [no match]"

/-- The blacklist is looked at first. -/
def of (blacklist : Blacklist) (spec candidate : Address) : Mark :=
  if blacklist.contains candidate.format then blacklisted
  else if spec.selects candidate then eligible
  else noMatch

end Mark

def listingLines (blacklist : Blacklist) (spec : Address) : List Address → List String
  | [] => ["No devices found."]
  | found => found.map fun candidate => candidate.format ++ (Mark.of blacklist spec candidate).note

def PingResult.line (result : PingResult) : String :=
  let verdict := if result.responded then "  OK"
    else if result.quarantined then "  no response (blacklisted)"
    else "  no response"
  result.address.format ++ verdict

def sweepLines : List PingResult → List String
  | [] => ["No devices to ping."]
  | results =>
    let responded := (results.filter (·.responded)).length
    results.map PingResult.line ++
      ["", toString responded ++ " of " ++ toString results.length ++ " device(s) responded."]

def Connected.lines (connected : Connected) : List String :=
  ["Device Status:",
    "  Address:   " ++ connected.info.address.format,
    "  Mode:      " ++ connected.info.mode.word,
    "  Serial:    " ++ connected.info.serialNumber,
    "  Firmware:  " ++ toString connected.info.firmwareVersion,
    "  Protocol:  v" ++ toString connected.info.protocolVersion,
    "  Attempts:  " ++ toString connected.attempts]

def Blacklist.lines (blacklist : Blacklist) : List String :=
  match blacklist.snapshot with
  | [] => ["Blacklist is empty."]
  | entries => "Blacklisted devices:" :: entries.map ("  " ++ ·)

def deadline {σ ℓ : Type} (host : Host σ ℓ) (started : Nat) (limit : Option UInt64) :
    ProgressCallback σ := fun _ _ world =>
  match limit with
  | none => (.proceed, world)
  | some seconds =>
    (if seconds.toNat * 1000 ≤ host.now world - started then .abort else .proceed, world)

namespace Coordinator

variable {σ ℓ φ : Type}

def runList (host : Host σ ℓ) (device : String) (c : Coordinator ℓ) (world : σ) : Report × σ :=
  match Address.parse device with
  | .error e => (.failed [] (.device e), world)
  | .ok spec =>
    let (found, world) := host.enumerate spec.transport world
    (.done (listingLines c.blacklist spec found), world)

def connectWithin (host : Host σ ℓ) (device : String) (config : ConnectConfig) (c : Coordinator ℓ)
    (world : σ) : Except TaskFailure Connected × Coordinator ℓ × σ :=
  let progress := deadline host (host.now world) config.waitSecs
  match c.connect host device config.policy progress world with
  | (.ok connected, c, world) => (.ok connected, c, world)
  | (.error e, c, world) => (.error (.ofConnect e), c, world)

def runStatus (host : Host σ ℓ) (device : String) (config : ConnectConfig) (c : Coordinator ℓ)
    (world : σ) : Report × Coordinator ℓ × σ :=
  match c.connectWithin host device config world with
  | (.error e, c, world) => (.failed [] e, c, world)
  | (.ok connected, c, world) =>
    let (c, world) := c.disconnect host world
    (.done connected.lines, c, world)

def runReset (host : Host σ ℓ) (device : String) (config : ConnectConfig) (c : Coordinator ℓ)
    (world : σ) : Report × Coordinator ℓ × σ :=
  match c.connectWithin host device config world with
  | (.error e, c, world) => (.failed [] e, c, world)
  | (.ok connected, c, world) =>
    let line := "Resetting " ++ connected.info.address.format ++ " (" ++
      connected.info.mode.word ++ ")..."
    match c.reset host world with
    | (.error e, c, world) => (.failed [line] (.reset e), c, world)
    | (.ok (), c, world) => (.done [line, "Device is restarting."], c, world)

def runBootloader (host : Host σ ℓ) (device : String) (config : ConnectConfig) (c : Coordinator ℓ)
    (world : σ) : Report × Coordinator ℓ × σ :=
  match c.connectWithin host device config world with
  | (.error e, c, world) => (.failed [] e, c, world)
  | (.ok connected, c, world) =>
    let name := connected.info.address.format
    if connected.info.isBootloader then
      let (c, world) := c.disconnect host world
      (.done [name ++ " is already in bootloader mode."], c, world)
    else
      let line := "Restarting " ++ name ++ " into bootloader..."
      match c.resetToBootloader host world with
      | (.error e, c, world) => (.failed [line] (.bootloader e), c, world)
      | (.ok (), c, world) =>
        (.done [line, "Device is restarting. Reconnect once it re-enumerates."], c, world)

def runClear (disk : Disk φ) (c : Coordinator ℓ) (files : φ) : Report × Coordinator ℓ × φ :=
  let line := "Removed " ++ toString c.blacklist.length ++ " blacklisted device(s)."
  match c.blacklist.clear disk files with
  | (.error e, blacklist, files) => (.failed [] (.blacklistUnsaved e), { c with blacklist }, files)
  | (.ok (), blacklist, files) => (.done [line], { c with blacklist }, files)

def perform (host : Host σ ℓ) (disk : Disk φ) (device : String) (config : ConnectConfig)
    (task : Task) (c : Coordinator ℓ) (world : σ) (files : φ) : Report × Coordinator ℓ × σ × φ :=
  match task with
  | .list =>
    let (report, world) := c.runList host device world
    (report, c, world, files)
  | .ping quarantining transport =>
    let (results, c, world, files) := c.pingAll host disk transport quarantining world files
    (.done (sweepLines results), c, world, files)
  | .status =>
    let (report, c, world) := c.runStatus host device config world
    (report, c, world, files)
  | .reset =>
    let (report, c, world) := c.runReset host device config world
    (report, c, world, files)
  | .bootloader =>
    let (report, c, world) := c.runBootloader host device config world
    (report, c, world, files)
  | .showBlacklist => (.done c.blacklist.lines, c, world, files)
  | .clearBlacklist =>
    let (report, c, files) := c.runClear disk files
    (report, c, world, files)

end Coordinator

namespace CommandLine

variable {σ ℓ φ : Type}

def prepare (disk : Disk φ) (line : CommandLine) (files : φ) :
    Except TaskFailure (Coordinator ℓ × ConnectConfig) :=
  match Settings.forWorkspace disk line.workspace files with
  | .error e => .error (.settings e)
  | .ok settings => match settings.connectDefaults with
    | .error e => .error (.connectDefaults e)
    | .ok defaults => match Blacklist.load settings with
      | .error e => .error (.blacklist e)
      | .ok blacklist =>
        let config := line.connectConfig defaults
        .ok (.start blacklist config.options, config)

def run (host : Host σ ℓ) (disk : Disk φ) (line : CommandLine) (world : σ) (files : φ) :
    Report × σ × φ :=
  match prepare disk line files with
  | .error e => (.failed [] e, world, files)
  | .ok (c, config) =>
    let (report, c, world, files) := c.perform host disk line.device config line.task world files
    let (_, world) := c.disconnect host world
    (report, world, files)

end CommandLine
end DeviceConnect
