import DeviceConnect.Bench.Hardware

/-! Which candidates a bench offers: a vendor-specific interface each of the USB devices that can
be addressed, then the serial ports. A listing that fails offers nothing. -/
namespace DeviceConnect.Bench

def vendorSpecificClass : UInt8 := 255

/-- A serial number that an address can carry: not empty, and without a separator. -/
def usableSerial? (serialNumber : Option String) : Option String :=
  serialNumber.filter fun s => s ≠ "" && !s.toList.contains '/'

/-- The candidates of one device, in the order of its interfaces. -/
def usbCandidates (d : UsbDevice) : List Address :=
  match usableSerial? d.serialNumber with
  | none => []
  | some serialNumber =>
    (d.interfaces.filter (·.interfaceClass = vendorSpecificClass)).map fun i =>
      Address.ofUsb (some d.vendorId) (some d.productId) (some i.number) (some serialNumber)

def scanUsb (b : Bench) : List Address × Bench :=
  match b.listUsb with
  | (.ok devices, b) => (devices.flatMap fun (_, d) => usbCandidates d, b)
  | (.error _, b) => ([], b)

def scanSerial (b : Bench) : List Address × Bench :=
  match b.listSerial with
  | (.ok ports, b) => (ports.map fun p => Address.ofSerial (some p.name), b)
  | (.error _, b) => ([], b)

def enumerate (filter : Option Transport) (b : Bench) : List Address × Bench :=
  match filter with
  | some .usb => b.scanUsb
  | some .serial => b.scanSerial
  | none =>
    let (usb, b) := b.scanUsb
    let (serial, b) := b.scanSerial
    (usb ++ serial, b)

end DeviceConnect.Bench
