import DeviceConnect.Protocol

/-! The connection's state machine: which events are accepted where, and what they lead to. -/
namespace DeviceConnect

inductive ConnectionState where
  | disconnected
  | connectedNormal
  | connectedBootloader
  deriving DecidableEq

inductive SessionEvent where
  | opened (mode : FirmwareMode)
  | openFailed
  | closed
  | transportFailed
  /-- The device accepted a reset and leaves the bus. -/
  | modeTransition
  deriving DecidableEq

namespace ConnectionState

def name : ConnectionState → String
  | disconnected => "Disconnected"
  | connectedNormal => "ConnectedNormal"
  | connectedBootloader => "ConnectedBootloader"

def ofMode : FirmwareMode → ConnectionState
  | .normal => connectedNormal
  | .bootloader => connectedBootloader

def isConnected : ConnectionState → Bool
  | disconnected => false
  | _ => true

def isBootloader : ConnectionState → Bool
  | connectedBootloader => true
  | _ => false

/-- The state that follows, or `none` where the event is not valid. Closing is always valid. -/
def next? : ConnectionState → SessionEvent → Option ConnectionState
  | disconnected, .opened mode => some (ofMode mode)
  | disconnected, .openFailed | disconnected, .closed => some disconnected
  | disconnected, .transportFailed | disconnected, .modeTransition => none
  | _, .opened _ | _, .openFailed => none
  | _, .closed | _, .transportFailed | _, .modeTransition => some disconnected

def accepts (state : ConnectionState) (event : SessionEvent) : Bool := (state.next? event).isSome

/-- An event that is not valid leaves the state as it is. -/
def apply (state : ConnectionState) (event : SessionEvent) : ConnectionState :=
  (state.next? event).getD state

end ConnectionState
end DeviceConnect
