/-! Spans of time, exact to the nanosecond. -/
namespace DeviceConnect

/-- Whole seconds, and the nanoseconds that do not make up another one. -/
structure Duration where
  seconds : UInt64
  nanos : UInt32
  below : nanos.toNat < 1000000000
  deriving DecidableEq

namespace Duration

def ofMillis (ms : UInt64) : Duration where
  seconds := ms / 1000
  nanos := UInt32.ofNat (ms.toNat % 1000 * 1000000)
  below := by
    have small : ms.toNat % 1000 * 1000000 < 1000000000 := by omega
    rw [UInt32.toNat_ofNat']
    exact Nat.lt_of_le_of_lt (Nat.mod_le _ _) small

def millis (d : Duration) : Nat := d.seconds.toNat * 1000 + d.nanos.toNat / 1000000

end Duration
end DeviceConnect
