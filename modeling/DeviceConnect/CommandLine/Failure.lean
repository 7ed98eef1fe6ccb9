import DeviceConnect.Retry
import DeviceConnect.Settings

/-! How a task fails, and the texts that say so: what was being done, then each cause. -/
namespace DeviceConnect

def FirmwareMode.word : FirmwareMode → String
  | normal => "normal"
  | bootloader => "bootloader"

def TransportError.chain : TransportError → List String
  | io cause => [(io cause).message, cause.message]
  | other => [other.message]

def SessionError.chain : SessionError → List String
  | notConnected => [notConnected.message]
  | transport cause => cause.chain

def SettingsError.chain : SettingsError → List String
  | io path cause => [(io path cause).message, cause.message]
  | parse path cause => [(parse path cause).message, cause.message]
  | value path key cause => [(value path key cause).message, cause.message]
  | notAnObject path => [(notAnObject path).message]

inductive TaskFailure where
  | settings (cause : SettingsError)
  /-- The connection defaults stand in a readable document, and are reported without more. -/
  | connectDefaults (cause : SettingsError)
  | blacklist (cause : SettingsError)
  | device (cause : AddressError)
  | stopped (attempts : UInt32)
  | noDevice (attempts : UInt32)
  | noConnection (attempts : UInt32) (cause : TransportError)
  | reset (cause : SessionError)
  | bootloader (cause : SessionError)
  | blacklistUnsaved (cause : SettingsError)
  deriving DecidableEq

namespace TaskFailure

def ofConnect : ConnectError → TaskFailure
  | .invalidAddress cause => device cause
  | .aborted attempts => stopped attempts
  | .noCandidates attempts => noDevice attempts
  | .transport attempts cause => noConnection attempts cause

def chain : TaskFailure → List String
  | settings cause => "Failed to read workspace settings" :: cause.chain
  | connectDefaults cause => cause.chain
  | blacklist cause => "Failed to load blacklist" :: cause.chain
  | device cause => ["Invalid --device address", cause.message]
  | stopped attempts => ["Connect stopped by user after " ++ toString attempts ++ " attempt(s)"]
  | noDevice attempts => ["No device found after " ++ toString attempts ++ " attempt(s)"]
  | noConnection attempts cause =>
    ("Could not connect after " ++ toString attempts ++ " attempt(s); last error") :: cause.chain
  | reset cause => "Reset failed" :: cause.chain
  | bootloader cause => "Bootloader request failed" :: cause.chain
  | blacklistUnsaved cause => "Failed to save blacklist" :: cause.chain

end TaskFailure
end DeviceConnect
