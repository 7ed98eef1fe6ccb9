import DeviceConnect.Bench.Serial
import DeviceConnect.Bench.Usb
import DeviceConnect.Proofs.Wire.Frame
import Mathlib.Data.List.Induction

/-! What links hear. A serial link reads one byte at a time, a USB link a packet; both answer with the
verdict on the stream, however it is cut, and a serial link reads no byte behind the deciding one. -/
namespace DeviceConnect

open Wire

/-- What a stream of bytes answers, and what stands behind the byte that decides it. That byte is the
first zero, or the one that passes the limit; without one, the answer is waited for in vain. -/
def verdict (stream : Bytes) : Except TransportError Response × Option Bytes :=
  let plain := (stream.takeWhile (· ≠ 0)).take Protocol.maxFrameBytes
  match stream.drop plain.length with
  | [] => (.error .timeout, none)
  | b :: rest =>
    (if b = 0 then (decodeFrame (plain ++ [0])).mapError fun e => .frame e.message
      else .error (.frame FrameError.tooLong.message), some rest)

/-- What a report of the buffer answers if no more bytes come in time. -/
def answerTo : Except FrameError (Option Nat) × FrameBuffer → Except TransportError Response
  | (.ok none, _) => .error .timeout
  | (.ok (some length), buffer) => (buffer.decode length).mapError fun e => .frame e.message
  | (.error e, _) => .error (.frame e.message)

/-- Bytes behind which nothing is decided yet. -/
structure Undecided (front : Bytes) : Prop where
  plain : 0 ∉ front
  fits : front.length ≤ Protocol.maxFrameBytes

/-- Whether a byte behind undecided ones decides. -/
def Decides (front : Bytes) (b : UInt8) : Prop := b = 0 ∨ front.length = Protocol.maxFrameBytes

theorem Undecided.concat {front : Bytes} (undecided : Undecided front) {b : UInt8}
    (passes : ¬Decides front b) : Undecided (front ++ [b]) := by
  obtain ⟨nonzero, room⟩ := not_or.mp passes
  have fits := undecided.fits
  constructor
  · intro member
    rcases List.mem_append.mp member with early | last
    · exact undecided.plain early
    · exact nonzero (List.mem_singleton.mp last).symm
  · rw [List.length_append, List.length_singleton]
    omega

theorem Decides.push_eq {front : Bytes} {b : UInt8} (decides : Decides front b) (rest : Bytes) :
    FrameBuffer.push ⟨front⟩ (b :: rest) =
      if b = 0 then (.ok (some (front ++ [b]).length), ⟨front ++ [b]⟩)
      else (.error .tooLong, ⟨front ++ [b]⟩) := by
  rw [FrameBuffer.push]
  by_cases delimiter : b = 0
  · rw [if_pos delimiter, if_pos delimiter]
  · have full : front.length = Protocol.maxFrameBytes := decides.resolve_left delimiter
    have exceeds : Protocol.maxFrameBytes < (front ++ [b]).length := by
      rw [List.length_append, List.length_singleton, full]
      exact Nat.lt_succ_self _
    rw [if_neg delimiter, if_neg delimiter, if_pos exceeds]

/-- A stream is undecided, or one of its bytes is the first to decide. -/
theorem undecided_or_decided (stream : Bytes) :
    Undecided stream ∨
      ∃ front b rest, stream = front ++ b :: rest ∧ Undecided front ∧ Decides front b := by
  induction stream using List.reverseRecOn with
  | nil => exact .inl ⟨List.not_mem_nil, Nat.zero_le _⟩
  | append_singleton front b ih =>
      rcases ih with undecided | ⟨early, first, rest, rfl, undecided, decides⟩
      · by_cases decides : Decides front b
        · exact .inr ⟨front, b, [], rfl, undecided, decides⟩
        · exact .inl (undecided.concat decides)
      · refine .inr ⟨early, first, rest ++ [b], ?_, undecided, decides⟩
        rw [List.append_assoc, List.cons_append]

namespace Undecided

variable {front : Bytes} (undecided : Undecided front)
include undecided

theorem takeWhile_append (rest : Bytes) :
    (front ++ rest).takeWhile (· ≠ 0) = front ++ rest.takeWhile (· ≠ 0) := by
  refine List.takeWhile_append_of_pos ?_
  intro b member
  refine decide_eq_true ?_
  rintro rfl
  exact undecided.plain member

theorem room : FrameBuffer.empty.bytes.length + front.length ≤ Protocol.maxFrameBytes := by
  rw [FrameBuffer.empty, List.length_nil, Nat.zero_add]
  exact undecided.fits

theorem push_eq : FrameBuffer.empty.push front = (.ok none, ⟨front⟩) :=
  FrameBuffer.empty.push_plain undecided.plain undecided.room

theorem verdict_eq : verdict front = (.error .timeout, none) := by
  have whole := undecided.takeWhile_append []
  rw [List.append_nil, List.takeWhile_nil, List.append_nil] at whole
  rw [verdict, whole, List.take_of_length_le undecided.fits]
  simp only [List.drop_length]

theorem verdict_decided {b : UInt8} (decides : Decides front b) (rest : Bytes) :
    verdict (front ++ b :: rest) = (answerTo (FrameBuffer.push ⟨front⟩ [b]), some rest) := by
  have plain : ((front ++ b :: rest).takeWhile (· ≠ 0)).take Protocol.maxFrameBytes = front := by
    rw [undecided.takeWhile_append]
    rcases decides with rfl | full
    · rw [List.takeWhile_cons_of_neg (by decide), List.append_nil,
        List.take_of_length_le undecided.fits]
    · exact List.take_left' full
  rw [verdict, plain, decides.push_eq]
  simp only [List.drop_left]
  by_cases delimiter : b = 0
  · rw [if_pos delimiter, if_pos delimiter, answerTo, FrameBuffer.decode, List.take_length, delimiter]
  · rw [if_neg delimiter, if_neg delimiter, answerTo]

end Undecided

theorem answerTo_push (stream : Bytes) :
    answerTo (FrameBuffer.empty.push stream) = (verdict stream).1 := by
  rcases undecided_or_decided stream with undecided | ⟨front, b, rest, rfl, undecided, decides⟩
  · rw [undecided.push_eq, undecided.verdict_eq]
    rfl
  · rw [undecided.verdict_decided decides, FrameBuffer.push_append, undecided.push_eq]
    simp only [decides.push_eq]

namespace UsbLink

theorem readPackets_bench (link : UsbLink) (buffer : FrameBuffer) (incoming : List InTransfer)
    (b b' : Bench) :
    (link.readPackets buffer incoming b).1 = (link.readPackets buffer incoming b').1 := by
  induction incoming generalizing buffer b b' with
  | nil => rfl
  | cons transfer rest ih =>
      cases transfer with
      | pending => rfl
      | failed message => rfl
      | data bytes =>
          rw [readPackets, readPackets]
          rcases buffer.push bytes with ⟨e | _ | length, next⟩
          · rfl
          · exact ih next _ _
          · dsimp only
            cases next.decode length <;> rfl

/-- Packets are pushed as one; reading goes on behind them unless that decides. -/
theorem readPackets_append (link : UsbLink) (buffer : FrameBuffer) (packets : List Bytes)
    (later : List InTransfer) (b b' : Bench) :
    (link.readPackets buffer (packets.map .data ++ later) b).1 =
      match buffer.push packets.flatten with
      | (.ok none, next) => (link.readPackets next later b').1
      | report => answerTo report := by
  induction packets generalizing buffer b with
  | nil => exact link.readPackets_bench buffer later b b'
  | cons packet packets ih =>
      rw [List.map_cons, List.cons_append, readPackets, List.flatten_cons, FrameBuffer.push_append]
      rcases buffer.push packet with ⟨e | _ | length, next⟩
      · rfl
      · exact ih next _
      · dsimp only [answerTo]
        cases next.decode length <;> rfl

theorem readPackets_answer (link : UsbLink) (buffer : FrameBuffer) (packets : List Bytes)
    (later : List InTransfer) (b : Bench) :
    (link.readPackets buffer (packets.map .data ++ .pending :: later) b).1 =
      answerTo (buffer.push packets.flatten) := by
  rw [link.readPackets_append buffer packets _ b b]
  rcases buffer.push packets.flatten with ⟨e | _ | length, next⟩
  · rfl
  · rfl
  · rfl

end UsbLink

namespace PortRead

/-- Single reads of a script bring the bytes of a stream, with reads that bring nothing between them,
and then meet `tail`. -/
inductive Carries (tail : List PortRead) : List PortRead → Bytes → Prop where
  | done : Carries tail tail []
  | byte {script left b stream} : read 1 script = (.ok [b], left) → Carries tail left stream →
      Carries tail script (b :: stream)
  | nothing {script left stream} : read 1 script = (.ok [], left) → Carries tail left stream →
      Carries tail script stream

theorem carries_chunks (chunks : List Bytes) (tail : List PortRead) :
    Carries tail (chunks.map .bytes ++ tail) chunks.flatten := by
  induction chunks with
  | nil => exact .done
  | cons chunk chunks ih =>
      rw [List.map_cons, List.cons_append, List.flatten_cons]
      induction chunk with
      | nil => exact .nothing rfl ih
      | cons b chunk more =>
          cases chunk with
          | nil => exact .byte rfl ih
          | cons c chunk => exact .byte rfl more

theorem receive_of_read (buffer : FrameBuffer) {script left : List PortRead} {data : Bytes}
    (came : read 1 script = (.ok data, left)) :
    receive buffer script =
      match buffer.push data with
      | (.ok none, next) => receive next left
      | report => (answerTo report, report.2, left) := by
  rw [receive]
  split
  · next failed =>
      rw [came] at failed
      cases failed
  · next found =>
      rw [came] at found
      cases found
      rcases buffer.push data with ⟨e | _ | length, next⟩
      · rfl
      · rfl
      · dsimp only [answerTo]
        cases next.decode length with
        | ok response => rfl
        | error e => rfl

theorem receive_of_silence (buffer : FrameBuffer) {script left : List PortRead} {e : IoError}
    (failed : read 1 script = (.error e, left)) (late : e.kind = .timedOut) :
    receive buffer script = (.error .timeout, buffer, left) := by
  rw [receive]
  split
  · next found =>
      rw [failed] at found
      cases found
      rw [if_pos late]
  · next came =>
      rw [failed] at came
      cases came

variable {tail script : List PortRead}

theorem Carries.split {front back : Bytes} (carried : Carries tail script (front ++ back)) :
    ∃ middle, Carries middle script front ∧ Carries tail middle back := by
  generalize whole : front ++ back = stream at carried
  induction carried generalizing front with
  | done =>
      obtain ⟨rfl, rfl⟩ := List.append_eq_nil_iff.mp whole
      exact ⟨tail, .done, .done⟩
  | @byte script left b stream came later ih =>
      cases front with
      | nil =>
          subst whole
          exact ⟨script, .done, .byte came later⟩
      | cons c front =>
          obtain ⟨rfl, others⟩ := List.cons.inj whole
          obtain ⟨middle, before, behind⟩ := ih others
          exact ⟨middle, .byte came before, behind⟩
  | nothing came later ih =>
      obtain ⟨middle, before, behind⟩ := ih whole
      exact ⟨middle, .nothing came before, behind⟩

theorem Carries.receive_plain {front : Bytes} (carried : Carries tail script front)
    (buffer : FrameBuffer) (plain : 0 ∉ front)
    (room : buffer.bytes.length + front.length ≤ Protocol.maxFrameBytes) :
    receive buffer script = receive ⟨buffer.bytes ++ front⟩ tail := by
  induction carried generalizing buffer with
  | done => rw [List.append_nil]
  | @byte script left b stream came later ih =>
      obtain ⟨first, others⟩ := not_or.mp (mt List.mem_cons.mpr plain)
      rw [List.length_cons] at room
      have kept : buffer.push [b] = (.ok none, ⟨buffer.bytes ++ [b]⟩) := by
        refine buffer.push_plain (mt List.mem_singleton.mp first) ?_
        rw [List.length_singleton]
        omega
      have fits : (buffer.bytes ++ [b]).length + stream.length ≤ Protocol.maxFrameBytes := by
        rw [List.length_append, List.length_singleton]
        omega
      rw [receive_of_read buffer came, kept]
      dsimp only
      rw [ih ⟨buffer.bytes ++ [b]⟩ others fits, List.append_assoc, List.singleton_append]
  | nothing came later ih =>
      rw [receive_of_read buffer came]
      exact ih buffer plain room

theorem Carries.receive_decided {front : Bytes} {b : UInt8} {rest : Bytes}
    (carried : Carries tail script (b :: rest)) (decides : Decides front b) :
    ∃ left, receive ⟨front⟩ script =
        (answerTo (FrameBuffer.push ⟨front⟩ [b]), (FrameBuffer.push ⟨front⟩ [b]).2, left) ∧
      Carries tail left rest := by
  generalize whole : b :: rest = stream at carried
  induction carried with
  | done => cases whole
  | @byte script left c stream came later ih =>
      obtain ⟨rfl, rfl⟩ := List.cons.inj whole
      refine ⟨left, ?_, later⟩
      rw [receive_of_read ⟨front⟩ came, decides.push_eq]
      by_cases delimiter : b = 0
      · rw [if_pos delimiter]
      · rw [if_neg delimiter]
  | nothing came later ih =>
      rw [receive_of_read ⟨front⟩ came]
      exact ih whole

/-- Reading a carried stream before a silence gives the verdict on it. What stands behind the byte
that decides is left to be read; without such a byte, the silence has been waited for. -/
theorem Carries.receive_eq {stream : Bytes} (carried : Carries tail script stream) {e : IoError}
    {left : List PortRead} (silence : read 1 tail = (.error e, left)) (late : e.kind = .timedOut) :
    (receive .empty script).1 = (verdict stream).1 ∧
      match (verdict stream).2 with
      | none => (receive .empty script).2.2 = left
      | some rest => Carries tail (receive .empty script).2.2 rest := by
  rcases undecided_or_decided stream with undecided | ⟨front, b, rest, rfl, undecided, decides⟩
  · rw [carried.receive_plain .empty undecided.plain undecided.room, receive_of_silence _ silence late,
      undecided.verdict_eq]
    exact ⟨rfl, rfl⟩
  · obtain ⟨middle, before, behind⟩ := carried.split
    obtain ⟨after, answered, unread⟩ := behind.receive_decided decides
    have reached : receive .empty script = receive ⟨front⟩ middle :=
      before.receive_plain .empty undecided.plain undecided.room
    rw [reached, answered, undecided.verdict_decided decides]
    exact ⟨rfl, unread⟩

end PortRead

theorem Bench.port_setPort (b : Bench) (index : Nat) (port : SerialPort) :
    (b.setPort index port).port index = if index < b.serial.length then port else b.port index := by
  unfold Bench.port Bench.setPort
  rw [List.getD_eq_getElem?_getD, List.getD_eq_getElem?_getD, List.getElem?_set_self']
  by_cases attached : index < b.serial.length
  · rw [if_pos attached, List.getElem?_eq_getElem attached]
    rfl
  · rw [if_neg attached, List.getElem?_eq_none (Nat.le_of_not_lt attached)]
    rfl

theorem SerialLink.receive_incoming (link : SerialLink) (b : Bench) :
    ((link.receive b).2.2.port link.port).incoming =
      (PortRead.receive .empty (b.port link.port).incoming).2.2 := by
  rw [SerialLink.receive, Bench.port_setPort]
  by_cases attached : link.port < b.serial.length
  · rw [if_pos attached]
  · have gone : (b.port link.port).incoming = [] := by
      rw [Bench.port, List.getD_eq_getElem?_getD, List.getElem?_eq_none (Nat.le_of_not_lt attached)]
      rfl
    rw [if_neg attached, gone, PortRead.receive_of_silence .empty rfl rfl]

/-- A USB link whose device sends these packets in time, and then nothing. -/
structure UsbLink.Hears (link : UsbLink) (packets : List Bytes) (b : Bench) : Prop where
  patient : link.timeoutMs ≠ 0
  sent : ∃ later, (b.device link.device).incoming = packets.map .data ++ .pending :: later

/-- A serial link whose port brings a stream byte by byte, and then `tail`, the first read of which
times out and leaves `left`. -/
structure SerialLink.Hears (link : SerialLink) (stream : Bytes) (tail left : List PortRead)
    (b : Bench) : Prop where
  carried : PortRead.Carries tail (b.port link.port).incoming stream
  silence : ∃ e, PortRead.read 1 tail = (.error e, left) ∧ e.kind = .timedOut

/-- However a stream is cut, both kinds of link answer with the verdict on it, and a serial link has
read exactly the bytes up to the one that decides. -/
theorem receivers_agree {packets : List Bytes} {usb : UsbLink} {there : Bench}
    (sent : usb.Hears packets there) {serial : SerialLink} {tail left : List PortRead} {here : Bench}
    (read : serial.Hears packets.flatten tail left here) :
    (usb.receive there).1 = (serial.receive here).1 ∧
      (serial.receive here).1 = (verdict packets.flatten).1 ∧
      match (verdict packets.flatten).2 with
      | none => ((serial.receive here).2.2.port serial.port).incoming = left
      | some rest =>
        PortRead.Carries tail ((serial.receive here).2.2.port serial.port).incoming rest := by
  obtain ⟨later, arrives⟩ := sent.sent
  have packeted : (usb.receive there).1 = (verdict packets.flatten).1 := by
    rw [UsbLink.receive, if_neg sent.patient, arrives]
    exact (usb.readPackets_answer .empty packets later there).trans (answerTo_push packets.flatten)
  obtain ⟨e, silence, late⟩ := read.silence
  obtain ⟨bytewise, unread⟩ := read.carried.receive_eq silence late
  refine ⟨packeted.trans bytewise.symm, bytewise, ?_⟩
  rw [serial.receive_incoming]
  exact unread

/-- An answer in packets, one of them empty and one running past the delimiter, and at a port. -/
theorem pong_heard_alike :
    let usb : UsbLink := ⟨0, 129, 1, 64, 2000, .empty⟩
    let device : UsbDevice := ⟨0x1209, 1, none, [], [], [], none, [], [],
      [.data [2], .data [], .data [1, 0, 7], .pending]⟩
    let there : Bench := { Bench.empty with usb := [device] }
    let serial : SerialLink := ⟨0, 2000, .empty⟩
    let port : SerialPort := ⟨"COM1", [], [], [.bytes [2, 1], .bytes [], .bytes [0, 7]], [], []⟩
    let here : Bench := { Bench.empty with serial := [port] }
    usb.Hears [[2], [], [1, 0, 7]] there ∧ serial.Hears [2, 1, 0, 7] [] [] here ∧
      (usb.receive there).1 = (serial.receive here).1 ∧ (serial.receive here).1 = .ok .pong ∧
      PortRead.Carries [] ((serial.receive here).2.2.port serial.port).incoming [7] := by
  intro usb device there serial port here
  have sent : usb.Hears [[2], [], [1, 0, 7]] there := ⟨by decide, [], rfl⟩
  have read : serial.Hears [2, 1, 0, 7] [] [] here :=
    ⟨PortRead.carries_chunks [[2, 1], [], [0, 7]] [], _, rfl, rfl⟩
  have judged : verdict [[2], [], [1, 0, 7]].flatten = (.ok .pong, some [7]) := by decide +kernel
  obtain ⟨alike, answered, unread⟩ := receivers_agree sent read
  rw [judged] at answered unread
  exact ⟨sent, read, alike, answered, unread⟩

end DeviceConnect
