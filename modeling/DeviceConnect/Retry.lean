import DeviceConnect.Address.Parser
import DeviceConnect.Host

/-! How often a connection is tried, what is preferred, and how trying ends. -/
namespace DeviceConnect

structure RetryPolicy where
  /-- Retries after the first round; zero means exactly one round. -/
  maxAttempts : UInt32
  delay : Duration
  deriving DecidableEq

/-- A count as reports carry it: at most 2^32 - 1. -/
def saturated (n : Nat) : UInt32 := UInt32.ofNat (min n (Nat.pow 2 32 - 1))

namespace RetryPolicy

def ofMillis (retries : UInt32) (delayMs : UInt64) : RetryPolicy := ⟨retries, .ofMillis delayMs⟩

def once : RetryPolicy := .ofMillis 0 0

def defaultRetries : UInt32 := 10
def defaultDelayMs : UInt64 := 500

def default : RetryPolicy := .ofMillis defaultRetries defaultDelayMs

def rounds (policy : RetryPolicy) : UInt32 := saturated (policy.maxAttempts.toNat + 1)

end RetryPolicy

structure Affinity where
  address : Address
  serialNumber : String
  deriving DecidableEq

/-- Whether a candidate looks like the remembered device. One that came back under another
address is known by its USB serial number. -/
def Affinity.prefers (affinity : Affinity) (candidate : Address) : Bool :=
  affinity.address.selects candidate ||
  (affinity.serialNumber ≠ "" && candidate.usbSerialNumber = some affinity.serialNumber)

structure Connected where
  info : ConnectionInfo
  attempts : UInt32
  deriving DecidableEq

inductive ConnectError where
  | invalidAddress (cause : AddressError)
  | noCandidates (attempts : UInt32)
  | transport (attempts : UInt32) (cause : TransportError)
  | aborted (attempts : UInt32)
  deriving DecidableEq

namespace ConnectError

def attempts : ConnectError → UInt32
  | invalidAddress _ => 0
  | noCandidates n | transport n _ | aborted n => n

def message : ConnectError → String
  | invalidAddress cause => cause.message
  | noCandidates n => "no matching device found after " ++ toString n ++ " attempt(s)"
  | transport n cause => "could not connect after " ++ toString n ++ " attempt(s): " ++ cause.message
  | aborted n => "connection aborted after " ++ toString n ++ " attempt(s)"

end ConnectError
end DeviceConnect
