import DeviceConnect.Settings

/-! What a command line asks for, and how its options lie over the workspace's settings. -/
namespace DeviceConnect

inductive Task where
  | list
  /-- Probe every device; `quarantine` puts those that stay silent on the blacklist. -/
  | ping (quarantine : Bool) (transport : Option Transport)
  | status
  | reset
  | bootloader
  | showBlacklist
  | clearBlacklist
  deriving DecidableEq

/-- A task with the options that every task takes. Retries, delay and limit are absent where
the settings decide. -/
structure CommandLine where
  device : String
  retries : Option UInt32
  delayMs : Option UInt64
  legacy : Bool
  waitSecs : Option UInt64
  workspace : String
  /-- How often more output was asked for, at most 255. -/
  verbosity : Nat
  task : Task
  deriving DecidableEq

structure ConnectConfig where
  policy : RetryPolicy
  options : OpenOptions
  waitSecs : Option UInt64
  deriving DecidableEq

/-- Options that were given win over the settings, field by field. The legacy protocol is
allowed by either. -/
def CommandLine.connectConfig (line : CommandLine) (d : ConnectDefaults) : ConnectConfig where
  policy := .ofMillis (line.retries.getD d.retries) (line.delayMs.getD d.delayMs)
  options := ⟨line.legacy || d.allowLegacy⟩
  waitSecs := line.waitSecs

end DeviceConnect
