import DeviceConnect.Bench.Hardware
import DeviceConnect.Wire.Frame

/-! Serial links. A request drains the port, writes its frame and reads the answer byte by byte,
so that no answer comes from bytes that were there before. -/
namespace DeviceConnect

/-- An open port: its place on the bench, its timeout, and the bytes of the frame under way. -/
structure SerialLink where
  port : Nat
  timeoutMs : Nat
  received : Wire.FrameBuffer
  deriving DecidableEq

namespace PortRead

/-- A bound on how often reads can still succeed. -/
def weight : List PortRead → Nat
  | [] => 0
  | bytes data :: rest => data.length + 1 + weight rest
  | _ :: rest => 1 + weight rest

/-- One read into `size` bytes: what is not taken stays in front. -/
def read (size : Nat) : List PortRead → Except IoError Bytes × List PortRead
  | [] => (.error ⟨.timedOut, "timed out"⟩, [])
  | bytes data :: rest =>
    match data.drop size with
    | [] => (.ok data, rest)
    | left => (.ok (data.take size), bytes left :: rest)
  | timeout :: rest => (.error ⟨.timedOut, "timed out"⟩, rest)
  | nothing :: rest => (.ok [], rest)
  | failure error :: rest => (.error error, rest)

theorem weight_read {size : Nat} (hsize : 0 < size) {script left : List PortRead} {data : Bytes}
    (h : read size script = (.ok data, left)) : weight left < weight script := by
  cases script with
  | nil => simp [read] at h
  | cons item rest =>
    cases item with
    | bytes content =>
      simp only [read] at h
      split at h
      · simp only [Prod.mk.injEq] at h
        rw [← h.2]; simp only [weight]; omega
      · next heq =>
        simp only [Prod.mk.injEq] at h
        rw [← h.2]; simp only [weight]
        have hlen : (content.drop size).length = content.length - size := List.length_drop
        have hne : content.drop size ≠ [] := heq
        have hpos : 0 < (content.drop size).length := List.length_pos_iff.2 hne
        omega
    | timeout => simp [read] at h
    | nothing =>
      simp only [read, Prod.mk.injEq] at h
      rw [← h.2]; simp only [weight]; omega
    | failure error => simp [read] at h

def drainSize : Nat := 64

/-- Reads until nothing comes or a read fails. -/
def drain (script : List PortRead) : List PortRead :=
  match _h : read drainSize script with
  | (.error _, left) => left
  | (.ok [], left) => left
  | (.ok (_ :: _), left) => drain left
  termination_by weight script
  decreasing_by exact weight_read (by decide) _h

/-- Reads single bytes until they make a frame or are refused. A read without bytes is repeated. -/
def receive (buffer : Wire.FrameBuffer) (script : List PortRead) :
    Except TransportError Response × Wire.FrameBuffer × List PortRead :=
  match _h : read 1 script with
  | (.error e, left) =>
    (.error (if e.kind = .timedOut then .timeout else .io e), buffer, left)
  | (.ok data, left) =>
    match buffer.push data with
    | (.error e, buffer) => (.error (.frame e.message), buffer, left)
    | (.ok none, buffer) => receive buffer left
    | (.ok (some length), buffer) =>
      match buffer.decode length with
      | .ok response => (.ok response, buffer, left)
      | .error e => (.error (.frame e.message), buffer, left)
  termination_by weight script
  decreasing_by exact weight_read (by decide) _h

end PortRead

namespace SerialLink

def baudRate : Nat := 115200

def drainTimeoutMs : Nat := 10

def openPort (path : String) (timeoutMs : Nat) (b : Bench) :
    Except TransportError SerialLink × Bench :=
  let b := b.record (.serialOpened path timeoutMs)
  match b.serial.findIdx? (·.name = path) with
  | none => (.error (.openFailed path "No such file or directory"), b)
  | some index =>
    let port := b.port index
    let (failure, openings) := takeNext none port.openings
    let b := b.setPort index { port with openings }
    match failure with
    | some message => (.error (.openFailed path message), b)
    | none => (.ok ⟨index, timeoutMs, .empty⟩, b)

def setTimeout (ms : Nat) (link : SerialLink) (b : Bench) : SerialLink × Bench :=
  ({ link with timeoutMs := ms }, b.record (.serialTimeout ms))

def drain (link : SerialLink) (b : Bench) : SerialLink × Bench :=
  let before := link.timeoutMs
  let (link, b) := link.setTimeout drainTimeoutMs b
  let port := b.port link.port
  let b := b.setPort link.port { port with incoming := PortRead.drain port.incoming }
  link.setTimeout before b

/-- Writes a frame whole; an interrupted write is repeated. -/
def writeAll (link : SerialLink) (data : Bytes) : List (Option IoError) → Bench →
    Except IoError Unit × Bench
  | [], b => (.ok (), (b.setPort link.port { b.port link.port with writes := [] }).record (.serialWrote data))
  | outcome :: rest, b =>
    let b := (b.setPort link.port { b.port link.port with writes := rest }).record (.serialWrote data)
    match outcome with
    | none => (.ok (), b)
    | some e => if e.kind = .interrupted then writeAll link data rest b else (.error e, b)

def flush (link : SerialLink) (b : Bench) : Except IoError Unit × Bench :=
  let port := b.port link.port
  let (failure, flushes) := takeNext none port.flushes
  let b := (b.setPort link.port { port with flushes }).record .serialFlushed
  match failure with
  | some e => (.error e, b)
  | none => (.ok (), b)

def send (command : Command) (link : SerialLink) (b : Bench) : Except IoError Unit × Bench :=
  match writeAll link (Wire.encodeFrame command) (b.port link.port).writes b with
  | (.error e, b) => (.error e, b)
  | (.ok (), b) => link.flush b

def receive (link : SerialLink) (b : Bench) : Except TransportError Response × SerialLink × Bench :=
  let port := b.port link.port
  let (answer, received, incoming) := PortRead.receive .empty port.incoming
  (answer, { link with received }, b.setPort link.port { port with incoming })

def request (command : Command) (link : SerialLink) (b : Bench) :
    Except TransportError Response × SerialLink × Bench :=
  let (link, b) := link.drain b
  match link.send command b with
  | (.error e, b) => (.error (.io e), link, b)
  | (.ok (), b) => link.receive b

end SerialLink
end DeviceConnect
