import DeviceConnect.Bench.Enumerate
import DeviceConnect.Bench.Serial
import DeviceConnect.Bench.Usb

/-! The bench as a host: an address chooses the kind of link. -/
namespace DeviceConnect

inductive BenchLink where
  | serial (link : SerialLink)
  | usb (link : UsbLink)
  deriving DecidableEq

namespace Bench

def defaultTimeoutMs : Nat := 2000

/-- Opens the device an address names. It must name a single one. -/
def openLink (timeoutMs : Nat) (address : Address) (b : Bench) :
    Except TransportError BenchLink × Bench :=
  if !address.isFull then
    (.error (.openFailed address.format "address does not name a single device"), b)
  else match address with
    | .serial (some path) =>
      let (result, b) := SerialLink.openPort path timeoutMs b
      (result.map .serial, b)
    | .usb selector =>
      let (result, b) := UsbLink.claim selector timeoutMs b
      (result.map .usb, b)
    | other => (.error (.openFailed other.format "not a device address"), b)

def request (link : BenchLink) (command : Command) (b : Bench) :
    Except TransportError Response × BenchLink × Bench :=
  match link with
  | .serial link =>
    let (answer, link, b) := link.request command b
    (answer, .serial link, b)
  | .usb link =>
    let (answer, link, b) := link.request command b
    (answer, .usb link, b)

def close (link : BenchLink) (b : Bench) : Bench :=
  match link with
  | .serial _ => b.record .serialClosed
  | .usb _ => b.record .usbClosed

def host (timeoutMs : Nat) : Host Bench BenchLink where
  enumerate := enumerate
  openLink := openLink timeoutMs
  request := request
  close := close
  wait span b := (b.pass span.millis).record (.waited span)
  now b := b.clock

end Bench
end DeviceConnect
