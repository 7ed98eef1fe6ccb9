import DeviceConnect.Blacklist
import DeviceConnect.Session

/-! Connecting until a device answers: list, filter, try, wait, repeat. The callback that is
asked before every round is the only place where a run can be stopped. -/
namespace DeviceConnect

structure Coordinator (ℓ : Type) where
  session : Session ℓ
  blacklist : Blacklist
  affinity : Option Affinity
  options : OpenOptions

structure PingResult where
  address : Address
  responded : Bool
  quarantined : Bool
  deriving DecidableEq

/-- How a round ended: with a connection, or with whether it had candidates and its last error. -/
inductive RoundOutcome where
  | connected (info : ConnectionInfo)
  | failed (matched : Bool) (error : Option TransportError)
  deriving DecidableEq

namespace Coordinator

variable {σ ℓ φ : Type}

def start (blacklist : Blacklist) (options : OpenOptions) : Coordinator ℓ :=
  ⟨.start, blacklist, none, options⟩

def isEligible (blacklist : Blacklist) (spec candidate : Address) : Bool :=
  !blacklist.contains candidate.format && spec.selects candidate

def preferredFirst (preferred : Option Affinity) (candidates : List Address) : List Address :=
  match preferred with
  | none => candidates
  | some affinity =>
    candidates.filter affinity.prefers ++ candidates.filter fun c => !affinity.prefers c

def tryOrder (blacklist : Blacklist) (preferred : Option Affinity) (spec : Address)
    (found : List Address) : List Address :=
  preferredFirst preferred (found.filter (isEligible blacklist spec))

/-- Tries candidates until one answers; `last` is the error of the one tried before. -/
def tryEach (host : Host σ ℓ) (options : OpenOptions) (last : Option TransportError) :
    List Address → Session ℓ → σ → Except (Option TransportError) ConnectionInfo × Session ℓ × σ
  | [], session, world => (.error last, session, world)
  | candidate :: rest, session, world =>
    match session.connect host candidate options world with
    | (.ok info, session, world) => (.ok info, session, world)
    | (.error e, session, world) => tryEach host options (some e) rest session world

def runRound (host : Host σ ℓ) (blacklist : Blacklist) (options : OpenOptions) (spec : Address)
    (preferred : Option Affinity) (session : Session ℓ) (world : σ) :
    RoundOutcome × Session ℓ × σ :=
  let (found, world) := host.enumerate spec.transport world
  let candidates := tryOrder blacklist preferred spec found
  match tryEach host options none candidates session world with
  | (.ok info, session, world) => (.connected info, session, world)
  | (.error e, session, world) => (.failed (!candidates.isEmpty) e, session, world)

/-- How a call without a connection ends. Rounds without candidates leave an earlier error. -/
def exhausted (attempts : UInt32) (matched : Bool) (last : Option TransportError) : ConnectError :=
  match last with
  | some e => if matched then .transport attempts e else .noCandidates attempts
  | none => .noCandidates attempts

/-- Rounds behind `performed` earlier ones, with at most `retries` more after the first. -/
def runRounds (host : Host σ ℓ) (progress : ProgressCallback σ)
    (round : Session ℓ → σ → RoundOutcome × Session ℓ × σ) (delay : Duration) :
    Nat → Nat → Bool → Option TransportError → Session ℓ → σ →
      Except ConnectError Connected × Session ℓ × σ
  | retries, performed, matched, last, session, world =>
    match round session world with
    | (.connected info, session, world) =>
      (.ok ⟨info, saturated (performed + 1)⟩, session, world)
    | (.failed matchedNow error, session, world) =>
      let matched := matched || matchedNow
      let last := error.or last
      match retries with
      | 0 => (.error (exhausted (saturated (performed + 1)) matched last), session, world)
      | retries + 1 =>
        match progress (saturated (performed + 2)) none world with
        | (.abort, world) => (.error (.aborted (saturated (performed + 1))), session, world)
        | (.proceed, world) =>
          runRounds host progress round delay retries (performed + 1) matched last session
            (host.wait delay world)

/-- Connects to a device that `spec` selects. The remembered device goes first where the
specification leaves everything open. -/
def connectTo (host : Host σ ℓ) (spec : Address) (policy : RetryPolicy)
    (progress : ProgressCallback σ) (c : Coordinator ℓ) (world : σ) :
    Except ConnectError Connected × Coordinator ℓ × σ :=
  let preferred := if spec.isAny then c.affinity else none
  match progress 1 none world with
  | (.abort, world) => (.error (.aborted 0), c, world)
  | (.proceed, world) =>
    let round := runRound host c.blacklist c.options spec preferred
    match runRounds host progress round policy.delay policy.maxAttempts.toNat 0 false none
        c.session world with
    | (.ok connected, session, world) =>
      let affinity := ⟨connected.info.address, connected.info.serialNumber⟩
      (.ok connected, { c with session, affinity := some affinity }, world)
    | (.error e, session, world) => (.error e, { c with session }, world)

def connect (host : Host σ ℓ) (spec : String) (policy : RetryPolicy)
    (progress : ProgressCallback σ) (c : Coordinator ℓ) (world : σ) :
    Except ConnectError Connected × Coordinator ℓ × σ :=
  match Address.parse spec with
  | .error e => (.error (.invalidAddress e), c, world)
  | .ok spec => c.connectTo host spec policy progress world

/-- Puts a text on the blacklist; `false` if it was there or could not be saved. -/
def quarantine (disk : Disk φ) (text : String) (blacklist : Blacklist) (files : φ) :
    Bool × Blacklist × φ :=
  match blacklist.add disk text files with
  | (.ok added, blacklist, files) => (added, blacklist, files)
  | (.error _, blacklist, files) => (false, blacklist, files)

/-- Probes candidates that are not on the blacklist when their turn comes. -/
def sweep (host : Host σ ℓ) (disk : Disk φ) (quarantining : Bool) :
    List Address → Blacklist → σ → φ → List PingResult × Blacklist × σ × φ
  | [], blacklist, world, files => ([], blacklist, world, files)
  | candidate :: rest, blacklist, world, files =>
    if blacklist.contains candidate.format then sweep host disk quarantining rest blacklist world files
    else
      let (responded, world) := host.probe candidate world
      let (quarantined, blacklist, files) :=
        if !responded && quarantining then quarantine disk candidate.format blacklist files
        else (false, blacklist, files)
      let (results, blacklist, world, files) :=
        sweep host disk quarantining rest blacklist world files
      (⟨candidate, responded, quarantined⟩ :: results, blacklist, world, files)

/-- Probes every listed device that is not on the blacklist. With `quarantining`, those that do
not answer are put there; a list that cannot be saved does not end the sweep. -/
def pingAll (host : Host σ ℓ) (disk : Disk φ) (filter : Option Transport) (quarantining : Bool)
    (c : Coordinator ℓ) (world : σ) (files : φ) : List PingResult × Coordinator ℓ × σ × φ :=
  let (found, world) := host.enumerate filter world
  let (results, blacklist, world, files) := sweep host disk quarantining found c.blacklist world files
  (results, { c with blacklist }, world, files)

def disconnect (host : Host σ ℓ) (c : Coordinator ℓ) (world : σ) : Coordinator ℓ × σ :=
  let (session, world) := c.session.close host world
  ({ c with session }, world)

def request (host : Host σ ℓ) (command : Command) (c : Coordinator ℓ) (world : σ) :
    Except SessionError Response × Coordinator ℓ × σ :=
  let (answer, session, world) := c.session.request host command world
  (answer, { c with session }, world)

def reset (host : Host σ ℓ) (c : Coordinator ℓ) (world : σ) :
    Except SessionError Unit × Coordinator ℓ × σ :=
  let (answer, session, world) := c.session.reset host world
  (answer, { c with session }, world)

def resetToBootloader (host : Host σ ℓ) (c : Coordinator ℓ) (world : σ) :
    Except SessionError Unit × Coordinator ℓ × σ :=
  let (answer, session, world) := c.session.resetToBootloader host world
  (answer, { c with session }, world)

def setOptions (options : OpenOptions) (c : Coordinator ℓ) : Coordinator ℓ := { c with options }

end Coordinator
end DeviceConnect
