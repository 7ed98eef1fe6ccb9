import DeviceConnect.Wire.Message
import DeviceConnect.Wire.Stuffing

/-! Frames: a stuffed message and its zero delimiter, and how a receiver collects one from
the bytes that arrive. -/
namespace DeviceConnect.Wire

def frameOf (message : Bytes) : Bytes := Stuffing.stuff message ++ [0]

def encodeFrame (command : Command) : Bytes := frameOf (encodeCommand command)

def encodeReply (response : Response) : Bytes := frameOf (encodeResponse response)

/-- What reading a frame in its buffer leaves there, and what it found. -/
structure Opened (α : Type) where
  buffer : Bytes
  result : Except ReadFault α

/-- Unstuffs the bytes before the first zero in place, then reads one message from them. The
buffer keeps its length: what was written lies over its beginning. -/
def openFrame {α} (reader : Reader α) (buffer : Bytes) : Opened α :=
  if buffer.isEmpty then ⟨buffer, .error .badStuffing⟩
  else
    let out := Stuffing.unstuff (buffer.takeWhile (· ≠ 0))
    let after := out.written ++ buffer.drop out.written.length
    if out.complete then ⟨after, (reader out.written).map (·.1)⟩
    else ⟨after, .error .badStuffing⟩

inductive FrameError where
  | unreadable (fault : ReadFault) (buffer : Bytes)
  | tooLong
  deriving DecidableEq

namespace FrameError

def shownBytes : Nat := 32

def message : FrameError → String
  | unreadable fault buffer =>
    "failed to deserialize response: " ++ fault.message ++
    " (raw " ++ toString buffer.length ++ " bytes: [" ++
    ", ".intercalate ((buffer.take shownBytes).map fun b => String.ofList (Hex.byte b)) ++ "])"
  | tooLong => "frame exceeds " ++ toString Protocol.maxFrameBytes ++ " bytes"

end FrameError

/-- Reads a frame as a command, on the device's side. -/
def decodeCommandFrame (buffer : Bytes) : Except ReadFault Command :=
  (openFrame decodeCommand buffer).result

/-- Reads a frame as a response. A refusal shows the buffer as reading left it. -/
def decodeFrame (buffer : Bytes) : Except FrameError Response :=
  let opened := openFrame decodeResponse buffer
  match opened.result with
  | .ok response => .ok response
  | .error fault => .error (.unreadable fault opened.buffer)

structure FrameBuffer where
  bytes : Bytes
  deriving DecidableEq

namespace FrameBuffer

def empty : FrameBuffer := ⟨[]⟩

/-- Takes bytes up to the first delimiter and reports the frame's length, if one ended. A plain
byte past the limit is refused; the bytes behind the deciding one are dropped. -/
def push (buffer : FrameBuffer) : Bytes → Except FrameError (Option Nat) × FrameBuffer
  | [] => (.ok none, buffer)
  | b :: rest =>
    let next : FrameBuffer := ⟨buffer.bytes ++ [b]⟩
    if b = 0 then (.ok (some next.bytes.length), next)
    else if Protocol.maxFrameBytes < next.bytes.length then (.error .tooLong, next)
    else push next rest

def decode (buffer : FrameBuffer) (length : Nat) : Except FrameError Response :=
  decodeFrame (buffer.bytes.take length)

end FrameBuffer
end DeviceConnect.Wire
