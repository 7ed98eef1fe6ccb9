import DeviceConnect.Text.Hex

/-! Byte stuffing: a payload is written without the byte zero, which then delimits frames.
Each block opens with a code byte, one more than the count of plain bytes that follow; a
block shorter than the longest one stands for its bytes and a zero. -/
namespace DeviceConnect.Wire.Stuffing

def maxBlock : Nat := 254

/-- Stuffs a payload behind the plain bytes `block` of the block under way. -/
def stuffFrom (block : Bytes) : Bytes → Bytes
  | [] => UInt8.ofNat (block.length + 1) :: block
  | b :: rest =>
    if b = 0 then UInt8.ofNat (block.length + 1) :: block ++ stuffFrom [] rest
    else if block.length + 1 = maxBlock then 255 :: block ++ b :: stuffFrom [] rest
    else stuffFrom (block ++ [b]) rest

/-- A payload without zeros, not yet delimited. -/
def stuff (payload : Bytes) : Bytes := stuffFrom [] payload

/-- What unstuffing has written when it stops, and whether it read its input to the end. -/
structure Unstuffed where
  written : Bytes
  complete : Bool
  deriving DecidableEq

/-- Reads the blocks of a text without zeros. A block that is cut short ends the reading and
leaves what was written before it. -/
def unstuff : Bytes → Unstuffed
  | [] => ⟨[], true⟩
  | code :: rest =>
    let count := code.toNat - 1
    if rest.length < count then ⟨[], false⟩
    else
      let tail := rest.drop count
      let zero := if code ≠ 255 ∧ tail ≠ [] then [0] else []
      let more := unstuff tail
      ⟨rest.take count ++ zero ++ more.written, more.complete⟩
  termination_by bytes => bytes.length
  decreasing_by simp only [List.length_drop, List.length_cons]; omega

end DeviceConnect.Wire.Stuffing
