import DeviceConnect.Address.Basic
import DeviceConnect.ConnectionState
import DeviceConnect.Duration
import DeviceConnect.TransportError

/-! The seams to the platform. A host lists devices, opens links, carries requests and waits;
everything it does is a function of an explicit world, so a run is a value. -/
namespace DeviceConnect

structure Host (σ ℓ : Type) where
  enumerate : Option Transport → σ → List Address × σ
  openLink : Address → σ → Except TransportError ℓ × σ
  request : ℓ → Command → σ → Except TransportError Response × ℓ × σ
  close : ℓ → σ → σ
  wait : Duration → σ → σ
  /-- The milliseconds that have passed. -/
  now : σ → Nat
  /-- Told of an event that is not valid in the session's state. -/
  ignored : ConnectionState → SessionEvent → σ → σ := fun _ _ world => world

structure OpenOptions where
  allowLegacy : Bool
  deriving DecidableEq

/-- What the device reported when the session was opened. -/
structure ConnectionInfo where
  address : Address
  mode : FirmwareMode
  serialNumber : String
  firmwareVersion : UInt32
  protocolVersion : UInt16
  deriving DecidableEq

def ConnectionInfo.isBootloader (info : ConnectionInfo) : Bool := info.mode = .bootloader

inductive Progress where
  | proceed
  | abort
  deriving DecidableEq

/-- Asked before every round with its number; no total is known in advance. -/
abbrev ProgressCallback (σ : Type) := UInt32 → Option UInt32 → σ → Progress × σ

/-- What a run asks of its surroundings, and what they answer. -/
inductive Event where
  | enumerated (filter : Option Transport) (found : List Address)
  | opened (address : Address) (failure : Option TransportError)
  | requested (address : Address) (command : Command) (answer : Except TransportError Response)
  | closed (address : Address)
  | asked (round : UInt32) (total : Option UInt32) (answer : Progress)
  | waited (span : Duration)

def failure? {ε α} : Except ε α → Option ε
  | .ok _ => none
  | .error e => some e

variable {σ ℓ : Type}

namespace Host

def probe (host : Host σ ℓ) (address : Address) (world : σ) : Bool × σ :=
  match host.openLink address world with
  | (.error _, world) => (false, world)
  | (.ok link, world) =>
    let (answer, link, world) := host.request link .ping world
    let responded := match answer with
      | .ok .pong => true
      | _ => false
    (responded, host.close link world)

/-- The same host with every action and its outcome written to the end of a list; links carry
their address. -/
def traced (host : Host σ ℓ) : Host (σ × List Event) (Address × ℓ) where
  enumerate filter := fun (world, log) =>
    let (found, world) := host.enumerate filter world
    (found, world, log ++ [.enumerated filter found])
  openLink address := fun (world, log) =>
    let (result, world) := host.openLink address world
    (result.map (address, ·), world, log ++ [.opened address (failure? result)])
  request := fun (address, link) command (world, log) =>
    let (answer, link, world) := host.request link command world
    (answer, (address, link), world, log ++ [.requested address command answer])
  close := fun (address, link) (world, log) => (host.close link world, log ++ [.closed address])
  wait span := fun (world, log) => (host.wait span world, log ++ [.waited span])
  now := fun (world, _) => host.now world
  ignored state event := fun (world, log) => (host.ignored state event world, log)

end Host

def ProgressCallback.traced (progress : ProgressCallback σ) : ProgressCallback (σ × List Event) :=
  fun round total (world, log) =>
    let (answer, world) := progress round total world
    (answer, world, log ++ [.asked round total answer])

end DeviceConnect
