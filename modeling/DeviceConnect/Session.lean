import DeviceConnect.ConnectionState
import DeviceConnect.Host

/-! A single device connection and its handshake. -/
namespace DeviceConnect

/-- The open link, if any, with what its device reported. -/
structure Session (ℓ : Type) where
  state : ConnectionState
  link : Option ℓ
  info : Option ConnectionInfo
  deriving DecidableEq

namespace Session

variable {σ ℓ : Type}

def start : Session ℓ := ⟨.disconnected, none, none⟩

def isConnected (s : Session ℓ) : Bool := s.state.isConnected
def isBootloader (s : Session ℓ) : Bool := s.state.isBootloader

/-- Moves to the state that follows an event. One that is not valid here changes nothing but is
reported. -/
def apply (host : Host σ ℓ) (event : SessionEvent) (s : Session ℓ) (world : σ) : Session ℓ × σ :=
  match s.state.next? event with
  | some state => ({ s with state }, world)
  | none => (s, host.ignored s.state event world)

def disconnect (host : Host σ ℓ) (event : SessionEvent) (s : Session ℓ) (world : σ) :
    Session ℓ × σ :=
  let world := match s.link with
    | some link => host.close link world
    | none => world
  { s with link := none, info := none }.apply host event world

def close (host : Host σ ℓ) (s : Session ℓ) (world : σ) : Session ℓ × σ :=
  s.disconnect host .closed world

def checkProtocol (version : UInt16) (options : OpenOptions) : Except TransportError Unit :=
  if version = Protocol.version then .ok ()
  else if version = Protocol.legacyVersion then
    if options.allowLegacy then .ok () else .error (.legacyNotAllowed version)
  else .error (.unsupportedProtocol version Protocol.version)

/-- What a device's first answer tells about the connection. -/
def readHello (address : Address) (options : OpenOptions) :
    Except TransportError Response → Except TransportError ConnectionInfo
  | .error e => .error e
  | .ok (.hello identity) =>
    match checkProtocol identity.protocolVersion options with
    | .error e => .error e
    | .ok () => .ok {
        address
        mode := identity.mode
        serialNumber := identity.serialNumber.text
        firmwareVersion := identity.firmwareVersion
        protocolVersion := identity.protocolVersion }
  | .ok other => .error (.unexpectedResponse other.describe)

/-- Opens a link and greets the device. A refused greeting closes the link again. -/
def handshake (host : Host σ ℓ) (address : Address) (options : OpenOptions) (world : σ) :
    Except TransportError (ℓ × ConnectionInfo) × σ :=
  match host.openLink address world with
  | (.error e, world) => (.error e, world)
  | (.ok link, world) =>
    let (answer, link, world) := host.request link (.hello Protocol.version) world
    match readHello address options answer with
    | .ok info => (.ok (link, info), world)
    | .error e => (.error e, host.close link world)

def connect (host : Host σ ℓ) (address : Address) (options : OpenOptions) (s : Session ℓ)
    (world : σ) : Except TransportError ConnectionInfo × Session ℓ × σ :=
  let (s, world) := if s.isConnected then s.close host world else (s, world)
  match handshake host address options world with
  | (.ok (link, info), world) =>
    let (s, world) := s.apply host (.opened info.mode) world
    (.ok info, { s with link := some link, info := some info }, world)
  | (.error e, world) =>
    let (s, world) := s.apply host .openFailed world
    (.error e, s, world)

/-- Sends a command on the open link. A failing link ends the session. -/
def request (host : Host σ ℓ) (command : Command) (s : Session ℓ) (world : σ) :
    Except SessionError Response × Session ℓ × σ :=
  match s.link with
  | none => (.error .notConnected, s, world)
  | some link =>
    match host.request link command world with
    | (.ok response, link, world) => (.ok response, { s with link := some link }, world)
    | (.error e, link, world) =>
      let (s, world) := { s with link := some link }.disconnect host .transportFailed world
      (.error (.transport e), s, world)

/-- Sends a reset command. Only an accepted one ends the session; a refusal keeps it. -/
def modeTransition (host : Host σ ℓ) (command : Command) (s : Session ℓ) (world : σ) :
    Except SessionError Unit × Session ℓ × σ :=
  match s.request host command world with
  | (.error e, s, world) => (.error e, s, world)
  | (.ok (.ack .ok), s, world) =>
    let (s, world) := s.disconnect host .modeTransition world
    (.ok (), s, world)
  | (.ok (.ack status), s, world) => (.error (.transport (.refused status)), s, world)
  | (.ok other, s, world) => (.error (.transport (.unexpectedResponse other.describe)), s, world)

def reset (host : Host σ ℓ) (s : Session ℓ) (world : σ) : Except SessionError Unit × Session ℓ × σ :=
  s.modeTransition host .reset world

def resetToBootloader (host : Host σ ℓ) (s : Session ℓ) (world : σ) :
    Except SessionError Unit × Session ℓ × σ :=
  s.modeTransition host .resetToBootloader world

end Session
end DeviceConnect
