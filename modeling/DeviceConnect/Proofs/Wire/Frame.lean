import DeviceConnect.Proofs.Wire.Message
import DeviceConnect.Proofs.Wire.Stuffing
import DeviceConnect.Wire.Frame

/-! Frames are read back whole. However the bytes of a frame and of what follows it are cut, the
chunk that brings the delimiter completes the frame, and no chunk before it reports anything. -/
namespace DeviceConnect.Wire

/-- A frame within the limit whose only zero is its last byte. -/
structure Framed (frame : Bytes) : Prop where
  zeros : frame.count 0 = 1
  last : frame.getLast? = some 0
  fits : frame.length ≤ Protocol.maxFrameBytes

theorem framed_of_short {message : Bytes} (short : message.length < Protocol.maxFrameBytes - 1) :
    Framed (frameOf message) := by
  have plain := Stuffing.zero_not_mem_stuff message
  have size := Stuffing.length_stuff_le message
  refine ⟨?_, ?_, ?_⟩
  · rw [frameOf, List.count_append, List.count_eq_zero.mpr plain]
    rfl
  · rw [frameOf, List.getLast?_append]
    rfl
  · rw [frameOf, List.length_append, List.length_singleton]
    unfold Protocol.maxFrameBytes at *
    unfold Stuffing.maxBlock at size
    omega

theorem openFrame_frameOf {α : Type} (read : Reader α) (message : Bytes) :
    (openFrame read (frameOf message)).result = (read message).map (·.1) := by
  have plain : ∀ b ∈ Stuffing.stuff message, decide (b ≠ 0) = true := by
    intro b member
    refine decide_eq_true ?_
    rintro rfl
    exact Stuffing.zero_not_mem_stuff message member
  have front : (frameOf message).takeWhile (· ≠ 0) = Stuffing.stuff message := by
    rw [frameOf, List.takeWhile_append_of_pos plain]
    simp
  have nonempty : (frameOf message).isEmpty = false := by
    simp [frameOf]
  rw [openFrame, nonempty, if_neg Bool.false_ne_true, front, Stuffing.unstuff_stuff]
  rfl

theorem decodeFrame_encodeReply (r : Response) : decodeFrame (encodeReply r) = .ok r := by
  have whole := decodeResponse_encodeResponse r []
  rw [List.append_nil] at whole
  simp only [decodeFrame, encodeReply, openFrame_frameOf, whole, Except.map]

theorem decodeCommandFrame_encodeFrame (c : Command) :
    decodeCommandFrame (encodeFrame c) = .ok c := by
  have whole := decodeCommand_encodeCommand c []
  rw [List.append_nil] at whole
  rw [decodeCommandFrame, encodeFrame, openFrame_frameOf, whole]
  rfl

namespace FrameBuffer

theorem push_plain (buffer : FrameBuffer) {chunk : Bytes} (plain : 0 ∉ chunk)
    (room : buffer.bytes.length + chunk.length ≤ Protocol.maxFrameBytes) :
    buffer.push chunk = (.ok none, ⟨buffer.bytes ++ chunk⟩) := by
  induction chunk generalizing buffer with
  | nil => rw [push, List.append_nil]
  | cons b rest ih =>
      obtain ⟨first, others⟩ := not_or.mp (mt List.mem_cons.mpr plain)
      have one : (buffer.bytes ++ [b]).length = buffer.bytes.length + 1 := by simp
      rw [List.length_cons] at room
      rw [push, if_neg (Ne.symm first), if_neg (by rw [one]; omega),
        ih _ others (by rw [one]; omega), List.append_assoc, List.singleton_append]

theorem push_delimited (buffer : FrameBuffer) {head : Bytes} (plain : 0 ∉ head)
    (room : buffer.bytes.length + head.length ≤ Protocol.maxFrameBytes) (tail : Bytes) :
    buffer.push (head ++ 0 :: tail) =
      (.ok (some (buffer.bytes.length + head.length + 1)), ⟨buffer.bytes ++ head ++ [0]⟩) := by
  induction head generalizing buffer with
  | nil => simp [push]
  | cons b rest ih =>
      obtain ⟨first, others⟩ := not_or.mp (mt List.mem_cons.mpr plain)
      have one : (buffer.bytes ++ [b]).length = buffer.bytes.length + 1 := by simp
      rw [List.length_cons] at room
      rw [List.cons_append, push, if_neg (Ne.symm first), if_neg (by rw [one]; omega),
        ih _ others (by rw [one]; omega)]
      simp only [one, List.length_cons, List.append_assoc, List.singleton_append]
      congr 3
      omega

/-- A push goes on with what follows, unless the bytes before it decided. -/
theorem push_append (buffer : FrameBuffer) (chunk rest : Bytes) :
    buffer.push (chunk ++ rest) =
      match buffer.push chunk with
      | (.ok none, next) => next.push rest
      | decided => decided := by
  induction chunk generalizing buffer with
  | nil => rfl
  | cons b chunk ih =>
      rw [List.cons_append, push, push]
      by_cases delimiter : b = 0
      · rw [if_pos delimiter, if_pos delimiter]
      · rw [if_neg delimiter, if_neg delimiter]
        by_cases full : Protocol.maxFrameBytes < (buffer.bytes ++ [b]).length
        · rw [if_pos full, if_pos full]
        · rw [if_neg full, if_neg full]
          exact ih _

/-- What pushes report up to the first that reports a frame or refuses, and the buffer then. -/
def feed (buffer : FrameBuffer) :
    List Bytes → List (Except FrameError (Option Nat)) × FrameBuffer
  | [] => ([], buffer)
  | chunk :: later =>
    match buffer.push chunk with
    | (.ok none, next) => (.ok none :: (next.feed later).1, (next.feed later).2)
    | (report, next) => ([report], next)

/-- The chunks bring `pending` and a delimiter. The one with the delimiter completes the frame, and
those before it report nothing. -/
def Completes (buffer : FrameBuffer) (pending : Bytes) (chunks : List Bytes) : Prop :=
  ∃ before head tail after, chunks = before ++ (head ++ 0 :: tail) :: after ∧
    before.flatten ++ head = pending ∧
    buffer.feed chunks =
      (before.map (fun _ => .ok none) ++ [.ok (some (buffer.bytes.length + pending.length + 1))],
        ⟨buffer.bytes ++ pending ++ [0]⟩)

theorem Completes.cons {buffer : FrameBuffer} {chunk rest : Bytes} {later : List Bytes}
    (kept : buffer.push chunk = (.ok none, ⟨buffer.bytes ++ chunk⟩))
    (completes : Completes ⟨buffer.bytes ++ chunk⟩ rest later) :
    buffer.Completes (chunk ++ rest) (chunk :: later) := by
  obtain ⟨before, head, tail, after, rfl, rfl, fed⟩ := completes
  refine ⟨chunk :: before, head, tail, after, rfl, by simp, ?_⟩
  rw [feed, kept]
  simp only [fed]
  simp [Nat.add_assoc]

/-- However the bytes up to the delimiter are cut, they complete the frame. -/
theorem completes_of_flatten (buffer : FrameBuffer) {pending : Bytes} (plain : 0 ∉ pending)
    (room : buffer.bytes.length + pending.length ≤ Protocol.maxFrameBytes) {chunks : List Bytes}
    {t : Bytes} (split : chunks.flatten = pending ++ 0 :: t) : buffer.Completes pending chunks := by
  induction chunks generalizing buffer pending with
  | nil => simp at split
  | cons chunk later ih =>
      have waiting : ∀ rest, pending = chunk ++ rest → later.flatten = rest ++ 0 :: t →
          buffer.Completes pending (chunk :: later) := by
        rintro rest rfl others
        have sizes : (buffer.bytes ++ chunk).length + rest.length =
            buffer.bytes.length + (chunk ++ rest).length := by
          simp only [List.length_append, Nat.add_assoc]
        have kept := buffer.push_plain (fun member => plain (List.mem_append_left _ member))
          (by rw [List.length_append] at sizes; omega)
        exact .cons kept (ih ⟨buffer.bytes ++ chunk⟩
          (fun member => plain (List.mem_append_right _ member)) (sizes ▸ room) others)
      rw [List.flatten_cons, List.append_eq_append_iff] at split
      rcases split with ⟨rest, held, others⟩ | ⟨rest, here, others⟩
      · exact waiting rest held others
      · cases rest with
        | nil => exact waiting [] (by simpa using here.symm) (by simpa using others.symm)
        | cons b tail =>
            rw [List.cons_append] at others
            obtain ⟨rfl, rfl⟩ := List.cons.inj others
            refine ⟨[], pending, tail, later, by rw [here]; rfl, rfl, ?_⟩
            rw [feed, here, buffer.push_delimited plain room]
            rfl

end FrameBuffer

theorem framed_encodeReply (r : Response) : Framed (encodeReply r) :=
  framed_of_short (Nat.lt_of_le_of_lt (length_encodeResponse_le r) (by decide))

theorem framed_encodeFrame (c : Command) : Framed (encodeFrame c) :=
  framed_of_short (Nat.lt_of_le_of_lt (length_encodeCommand_le c) (by decide))

/-- How chunks deliver a frame to a cleared buffer: the chunk with its delimiter reports its length,
those before it report nothing, and the buffer then holds the frame alone. -/
def Delivers (chunks : List Bytes) (frame : Bytes) : Prop :=
  ∃ before head tail after, chunks = before ++ (head ++ 0 :: tail) :: after ∧
    before.flatten ++ head ++ [0] = frame ∧
    FrameBuffer.empty.feed chunks =
      (before.map (fun _ => .ok none) ++ [.ok (some frame.length)], ⟨frame⟩)

theorem delivers_frameOf {message t : Bytes} (framed : Framed (frameOf message))
    {chunks : List Bytes} (split : chunks.flatten = frameOf message ++ t) :
    Delivers chunks (frameOf message) := by
  have plain := Stuffing.zero_not_mem_stuff message
  have fits := framed.fits
  rw [frameOf, List.length_append, List.length_singleton] at fits
  obtain ⟨before, head, tail, after, cut, held, fed⟩ :=
    FrameBuffer.empty.completes_of_flatten plain (by simp only [FrameBuffer.empty, List.length_nil]; omega)
      (split.trans (List.append_assoc _ _ _))
  refine ⟨before, head, tail, after, cut, by rw [held, frameOf], ?_⟩
  simpa [FrameBuffer.empty, frameOf] using fed

/-- Replies and commands are framed and read back, and a reply also out of the chunks it comes in,
whatever follows it. -/
theorem frames_read_back :
    (∀ r, Framed (encodeReply r) ∧ decodeFrame (encodeReply r) = .ok r) ∧
      (∀ c, Framed (encodeFrame c) ∧ decodeCommandFrame (encodeFrame c) = .ok c) ∧
      ∀ r t chunks, chunks.flatten = encodeReply r ++ t →
        Delivers chunks (encodeReply r) ∧
          (FrameBuffer.empty.feed chunks).2.decode (encodeReply r).length = .ok r := by
  refine ⟨fun r => ?_, fun c => ?_, fun r t chunks split => ?_⟩
  · exact ⟨framed_encodeReply r, decodeFrame_encodeReply r⟩
  · exact ⟨framed_encodeFrame c, decodeCommandFrame_encodeFrame c⟩
  · have delivered : Delivers chunks (encodeReply r) := delivers_frameOf (framed_encodeReply r) split
    refine ⟨delivered, ?_⟩
    obtain ⟨_, _, _, _, _, _, fed⟩ := delivered
    rw [fed, FrameBuffer.decode, List.take_length]
    exact decodeFrame_encodeReply r

theorem pong_read_back :
    [[2], [1, 0, 7], [5]].flatten = encodeReply .pong ++ [7, 5] ∧
      Delivers [[2], [1, 0, 7], [5]] (encodeReply .pong) ∧
      (FrameBuffer.empty.feed [[2], [1, 0, 7], [5]]).2.decode (encodeReply .pong).length =
        .ok .pong := by
  have split : [[2], [1, 0, 7], [5]].flatten = encodeReply .pong ++ [7, 5] := by
    rw [encodeReply, encodeResponse, Varint.encode_of_lt (by decide)]
    rfl
  exact ⟨split, frames_read_back.2.2 .pong [7, 5] [[2], [1, 0, 7], [5]] split⟩

end DeviceConnect.Wire
