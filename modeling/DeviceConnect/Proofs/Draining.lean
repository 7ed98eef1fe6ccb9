import DeviceConnect.Proofs.Receiving

/-! What a serial link does not hear. Two requests are compared: one meets bytes at its port, and a
buffer with the rest of an earlier frame; the other meets neither. Once the port is drained they are
the same request. -/
namespace DeviceConnect

open Wire

namespace PortRead

variable {script left later tail : List PortRead}

theorem drain_of_read {b : UInt8} {more : Bytes}
    (came : read drainSize script = (.ok (b :: more), left)) : drain script = drain left := by
  rw [drain]
  split
  · next failed =>
      rw [came] at failed
      cases failed
  · next nothing =>
      rw [came] at nothing
      cases nothing
  · next found =>
      rw [came] at found
      cases found
      rfl

theorem drain_of_error {e : IoError} (failed : read drainSize script = (.error e, left)) :
    drain script = left := by
  rw [drain]
  split
  · next found =>
      rw [failed] at found
      cases found
      rfl
  · next nothing =>
      rw [failed] at nothing
      cases nothing
  · next came =>
      rw [failed] at came
      cases came

theorem drain_bytes {piece : Bytes} (nonempty : piece ≠ []) (rest : List PortRead) :
    drain (.bytes piece :: rest) = drain rest := by
  induction size : piece.length using Nat.strong_induction_on generalizing piece with
  | _ n ih =>
      obtain ⟨b, more, rfl⟩ := List.exists_cons_of_ne_nil nonempty
      cases behind : (b :: more).drop drainSize with
      | nil =>
          have whole : read drainSize (.bytes (b :: more) :: rest) = (.ok (b :: more), rest) := by
            rw [read, behind]
          exact drain_of_read whole
      | cons c others =>
          have shorter : (c :: others).length < n := by
            rw [← behind, List.length_drop, ← size]
            exact Nat.sub_lt (Nat.succ_pos _) (by decide)
          have first : read drainSize (.bytes (b :: more) :: rest) =
              (.ok (b :: more.take (drainSize - 1)), .bytes (c :: others) :: rest) := by
            rw [read, behind]
            rfl
          rw [drain_of_read first]
          exact ih _ shorter (List.cons_ne_nil c others) rfl

theorem drain_pieces {pieces : List Bytes} (nonempty : ∀ piece ∈ pieces, piece ≠ []) {e : IoError}
    (silence : read drainSize tail = (.error e, later)) :
    drain (pieces.map .bytes ++ tail) = later := by
  induction pieces with
  | nil => exact drain_of_error silence
  | cons piece pieces ih =>
      obtain ⟨here, others⟩ := List.forall_mem_cons.mp nonempty
      rw [List.map_cons, List.cons_append, drain_bytes here]
      exact ih others

end PortRead

namespace Bench

def withIncoming (b : Bench) (index : Nat) (incoming : List PortRead) : Bench :=
  b.setPort index { b.port index with incoming }

theorem incoming_setPort {b : Bench} {index : Nat} {port : SerialPort}
    (same : port.incoming = (b.port index).incoming) :
    ((b.setPort index port).port index).incoming = (b.port index).incoming := by
  rw [port_setPort]
  split
  · exact same
  · rfl

theorem incoming_withIncoming {b : Bench} {index : Nat} (attached : index < b.serial.length)
    (incoming : List PortRead) : ((b.withIncoming index incoming).port index).incoming = incoming := by
  rw [withIncoming, port_setPort, if_pos attached]

theorem withIncoming_detached {b : Bench} {index : Nat} (detached : ¬index < b.serial.length)
    (incoming : List PortRead) : b.withIncoming index incoming = b := by
  unfold withIncoming setPort
  rw [List.set_eq_of_length_le (Nat.le_of_not_lt detached)]

theorem withIncoming_withIncoming (b : Bench) (index : Nat) (first second : List PortRead) :
    (b.withIncoming index first).withIncoming index second = b.withIncoming index second := by
  by_cases attached : index < b.serial.length
  · have kept : (b.withIncoming index first).setPort index { b.port index with incoming := second } =
        b.withIncoming index second := by
      unfold withIncoming setPort
      rw [List.set_set]
    rw [← kept, withIncoming, withIncoming, port_setPort, if_pos attached]
  · rw [withIncoming_detached attached first]

end Bench

namespace SerialLink

theorem drain_eq (link : SerialLink) (b : Bench) :
    link.drain b = (link, ((b.withIncoming link.port (PortRead.drain (b.port link.port).incoming)).record
      (.serialTimeout drainTimeoutMs)).record (.serialTimeout link.timeoutMs)) := rfl

theorem drain_alike (link : SerialLink) (b : Bench) {first second : List PortRead}
    (same : PortRead.drain first = PortRead.drain second) :
    link.drain (b.withIncoming link.port first) = link.drain (b.withIncoming link.port second) := by
  by_cases attached : link.port < b.serial.length
  · rw [drain_eq, drain_eq, Bench.withIncoming_withIncoming, Bench.withIncoming_withIncoming,
      Bench.incoming_withIncoming attached, Bench.incoming_withIncoming attached, same]
  · rw [Bench.withIncoming_detached attached, Bench.withIncoming_detached attached]

theorem incoming_drain {link : SerialLink} {b : Bench} (attached : link.port < b.serial.length) :
    ((link.drain b).2.port link.port).incoming = PortRead.drain (b.port link.port).incoming :=
  Bench.incoming_withIncoming attached _

/-! ### Sending -/

theorem writeAll_received (link : SerialLink) (leftover : FrameBuffer) (data : Bytes)
    (outcomes : List (Option IoError)) (b : Bench) :
    writeAll { link with received := leftover } data outcomes b = writeAll link data outcomes b := by
  induction outcomes generalizing b with
  | nil => rfl
  | cons outcome rest ih =>
      cases outcome with
      | none => rfl
      | some e =>
          rw [writeAll, writeAll]
          dsimp only
          rw [ih]

theorem send_received (link : SerialLink) (leftover : FrameBuffer) (command : Command) (b : Bench) :
    send command { link with received := leftover } b = send command link b := by
  unfold send
  rw [writeAll_received]
  rfl

theorem incoming_writeAll (link : SerialLink) (data : Bytes) (outcomes : List (Option IoError))
    (b : Bench) : ((writeAll link data outcomes b).2.port link.port).incoming =
      (b.port link.port).incoming := by
  induction outcomes generalizing b with
  | nil => exact Bench.incoming_setPort rfl
  | cons outcome rest ih =>
      have kept : (((b.setPort link.port { b.port link.port with writes := rest }).record
          (.serialWrote data)).port link.port).incoming = (b.port link.port).incoming :=
        Bench.incoming_setPort rfl
      cases outcome with
      | none => exact kept
      | some e =>
          rw [writeAll]
          dsimp only
          split
          · exact (ih _).trans kept
          · exact kept

theorem incoming_flush (link : SerialLink) (b : Bench) :
    ((link.flush b).2.port link.port).incoming = (b.port link.port).incoming := by
  unfold flush
  dsimp only
  split <;> exact Bench.incoming_setPort rfl

theorem incoming_send (link : SerialLink) (command : Command) (b : Bench) :
    ((link.send command b).2.port link.port).incoming = (b.port link.port).incoming := by
  have written := incoming_writeAll link (encodeFrame command) (b.port link.port).writes b
  unfold send
  generalize writeAll link (encodeFrame command) (b.port link.port).writes b = done at written
  obtain ⟨e | ⟨⟩, between⟩ := done
  · exact written
  · exact (incoming_flush link between).trans written

/-! ### Requests -/

theorem request_eq (link : SerialLink) (command : Command) (b : Bench) :
    link.request command b = match link.send command (link.drain b).2 with
      | (.error refused, after) => (.error (.io refused), link, after)
      | (.ok (), after) => link.receive after := rfl

/-- What an earlier request has left in the buffer goes into no answer. -/
theorem request_received (link : SerialLink) (leftover : FrameBuffer) (command : Command) (b : Bench) :
    let clean := link.request command b
    let used := { link with received := leftover }.request command b
    used.1 = clean.1 ∧ used.2.1.timeoutMs = clean.2.1.timeoutMs ∧ used.2.2 = clean.2.2 := by
  have drained : ({ link with received := leftover }.drain b).2 = (link.drain b).2 := rfl
  simp only [request_eq, drained, send_received]
  rcases link.send command (link.drain b).2 with ⟨e | ⟨⟩, after⟩
  · exact ⟨rfl, rfl, rfl⟩
  · exact ⟨rfl, rfl, rfl⟩

theorem request_timeoutMs (link : SerialLink) (command : Command) (b : Bench) :
    (link.request command b).2.1.timeoutMs = link.timeoutMs := by
  rw [request_eq]
  rcases link.send command (link.drain b).2 with ⟨e | ⟨⟩, after⟩
  · rfl
  · rfl

theorem request_answer (link : SerialLink) (command : Command) (b : Bench) :
    let sent := link.send command (link.drain b).2
    (link.request command b).1 = match sent.1 with
      | .error refused => .error (.io refused)
      | .ok () => (PortRead.receive .empty (sent.2.port link.port).incoming).1 := by
  rw [request_eq]
  rcases link.send command (link.drain b).2 with ⟨e | ⟨⟩, after⟩
  · rfl
  · rfl

end SerialLink

/-- A request meets pending bytes, in any pieces, and then a silence. It answers, sets the timeout and
leaves the bench as a request does that meets the silence at once, whatever each has in its buffer.
Once a port is written to, only what comes behind the silence is there to be read. -/
theorem stale_bytes_are_not_heard (link : SerialLink) (leftover : FrameBuffer) (command : Command)
    (b : Bench) {pieces : List Bytes} (pending : ∀ piece ∈ pieces, piece ≠ [])
    {tail later : List PortRead} {e : IoError}
    (silence : PortRead.read PortRead.drainSize tail = (.error e, later)) :
    let noisy := b.withIncoming link.port (pieces.map .bytes ++ tail)
    let heard := link.request command noisy
    let plain := { link with received := leftover }.request command (b.withIncoming link.port tail)
    heard.1 = plain.1 ∧ heard.2.1.timeoutMs = plain.2.1.timeoutMs ∧
      heard.2.1.timeoutMs = link.timeoutMs ∧ heard.2.2 = plain.2.2 ∧
      (link.port < b.serial.length →
        let sent := link.send command (link.drain noisy).2
        (sent.2.port link.port).incoming = later ∧
          heard.1 = match sent.1 with
            | .error refused => .error (.io refused)
            | .ok () => (PortRead.receive .empty later).1) := by
  intro noisy heard plain
  have dropped : PortRead.drain (pieces.map .bytes ++ tail) = PortRead.drain tail :=
    (PortRead.drain_pieces pending silence).trans (PortRead.drain_of_error silence).symm
  have alike : heard = link.request command (b.withIncoming link.port tail) := by
    unfold heard noisy
    rw [SerialLink.request_eq, SerialLink.request_eq, link.drain_alike b dropped]
  obtain ⟨answer, timeout, bench⟩ :=
    link.request_received leftover command (b.withIncoming link.port tail)
  rw [← alike] at answer timeout bench
  refine ⟨answer.symm, timeout.symm, link.request_timeoutMs command noisy, bench.symm, ?_⟩
  intro attached sent
  have within : link.port < noisy.serial.length :=
    Nat.lt_of_lt_of_eq attached List.length_set.symm
  have quiet : ((link.drain noisy).2.port link.port).incoming = later := by
    rw [SerialLink.incoming_drain within, Bench.incoming_withIncoming attached]
    exact PortRead.drain_pieces pending silence
  have unread : (sent.2.port link.port).incoming = later :=
    (link.incoming_send command (link.drain noisy).2).trans quiet
  refine ⟨unread, ?_⟩
  rw [← unread]
  exact link.request_answer command noisy

/-- An old answer, whole and behind more than one read takes, does not stand for the one to a reset. -/
theorem old_pong_is_not_heard :
    let link : SerialLink := ⟨0, 2000, ⟨[2, 1]⟩⟩
    let port : SerialPort := ⟨"COM1", [], [], [], [some ⟨.interrupted, "interrupted"⟩], []⟩
    let b : Bench := { Bench.empty with serial := [port] }
    let pieces : List Bytes := [List.replicate 70 9, [0], [2, 1, 0]]
    let tail : List PortRead := [.timeout, .bytes [2, 2], .nothing, .bytes [1, 0]]
    let heard := link.request .reset (b.withIncoming 0 (pieces.map .bytes ++ tail))
    (∀ piece ∈ pieces, piece ≠ []) ∧
      PortRead.read PortRead.drainSize tail = (.error ⟨.timedOut, "timed out"⟩, tail.tail) ∧
      heard.1 = .ok (.ack .ok) ∧ heard.2.1.timeoutMs = 2000 ∧
      heard.1 = ({ link with received := .empty }.request .reset (b.withIncoming 0 tail)).1 := by
  intro link port b pieces tail heard
  have pending : ∀ piece ∈ pieces, piece ≠ [] := by decide
  have silence : PortRead.read PortRead.drainSize tail =
      (.error ⟨.timedOut, "timed out"⟩, tail.tail) := rfl
  obtain ⟨alike, _, timeout, _, behind⟩ :=
    stale_bytes_are_not_heard link .empty .reset b pending silence
  obtain ⟨_, answer⟩ := behind Nat.one_pos
  refine ⟨pending, silence, ?_, timeout, alike⟩
  refine answer.trans ?_
  decide +kernel

end DeviceConnect
