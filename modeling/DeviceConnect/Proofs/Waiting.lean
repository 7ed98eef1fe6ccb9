import DeviceConnect.Proofs.Receiving

/-! What a USB link hears of packets that were waiting for it. Nothing takes them away before a command
is written, so they are read in front of what the device sends then; the only ones that change no
answer are those without bytes. -/
namespace DeviceConnect

open Wire

namespace Bench

def withArriving (b : Bench) (index : Nat) (incoming : List InTransfer) : Bench :=
  b.setDevice index { b.device index with incoming }

theorem device_setDevice (b : Bench) (index : Nat) (d : UsbDevice) :
    (b.setDevice index d).device index = if index < b.usb.length then d else b.device index := by
  unfold device setDevice
  rw [List.getD_eq_getElem?_getD, List.getD_eq_getElem?_getD, List.getElem?_set_self']
  by_cases attached : index < b.usb.length
  · rw [if_pos attached, List.getElem?_eq_getElem attached]
    rfl
  · rw [if_neg attached, List.getElem?_eq_none (Nat.le_of_not_lt attached)]
    rfl

theorem device_withArriving {b : Bench} {index : Nat} (attached : index < b.usb.length)
    (incoming : List InTransfer) :
    (b.withArriving index incoming).device index = { b.device index with incoming } := by
  rw [withArriving, device_setDevice, if_pos attached]

theorem withArriving_detached {b : Bench} {index : Nat} (detached : ¬index < b.usb.length)
    (incoming : List InTransfer) : b.withArriving index incoming = b := by
  unfold withArriving setDevice
  rw [List.set_eq_of_length_le (Nat.le_of_not_lt detached)]

theorem outgoing_withArriving (b : Bench) (index : Nat) (incoming : List InTransfer) :
    ((b.withArriving index incoming).device index).outgoing = (b.device index).outgoing := by
  rw [withArriving, device_setDevice]
  split <;> rfl

end Bench

namespace UsbLink

/-! ### Writing -/

theorem writePacket_answer (link : UsbLink) (data : Bytes) (b : Bench) :
    (link.writePacket data b).1 = match (takeNext .done (b.device link.device).outgoing).1 with
      | .done => .ok ()
      | .failed message => .error (transferError message)
      | .pending => .error .timeout := by
  have same : (b.record (.usbOut link.outEndpoint data)).device link.device = b.device link.device :=
    rfl
  unfold writePacket
  dsimp only
  rw [same]
  cases (takeNext .done (b.device link.device).outgoing).1 <;> rfl

theorem writePacket_withArriving (link : UsbLink) (data : Bytes) (b : Bench)
    (incoming : List InTransfer) :
    (link.writePacket data (b.withArriving link.device incoming)).1 = (link.writePacket data b).1 := by
  rw [writePacket_answer, writePacket_answer, Bench.outgoing_withArriving]

theorem incoming_writePacket (link : UsbLink) (data : Bytes) (b : Bench) :
    ((link.writePacket data b).2.device link.device).incoming = (b.device link.device).incoming := by
  have kept (outgoing : List OutTransfer) :
      ((b.setDevice link.device { b.device link.device with outgoing }).device link.device).incoming =
        (b.device link.device).incoming := by
    rw [Bench.device_setDevice]
    split <;> rfl
  unfold writePacket
  dsimp only
  split <;> exact kept _

/-! ### Requests -/

theorem request_answer (link : UsbLink) (command : Command) (b : Bench) :
    (link.request command b).1 = match (link.writePacket (encodeFrame command) b).1 with
      | .error refused => .error refused
      | .ok () => if link.timeoutMs = 0 then .error .timeout
        else (link.readPackets .empty (b.device link.device).incoming b).1 := by
  have unread := link.incoming_writePacket (encodeFrame command) b
  unfold request
  generalize link.writePacket (encodeFrame command) b = done at unread ⊢
  obtain ⟨refused | ⟨⟩, written⟩ := done
  · rfl
  · dsimp only at unread ⊢
    unfold receive
    rw [unread]
    by_cases hurried : link.timeoutMs = 0
    · rw [if_pos hurried, if_pos hurried]
    · rw [if_neg hurried, if_neg hurried]
      exact link.readPackets_bench .empty _ written b

/-- A request gets as far as reading: its device is there and takes the command, and there is time. -/
structure Reads (link : UsbLink) (command : Command) (b : Bench) : Prop where
  attached : link.device < b.usb.length
  patient : link.timeoutMs ≠ 0
  written : (link.writePacket (encodeFrame command) b).1 = .ok ()

variable {link : UsbLink} {command : Command} {b : Bench}

theorem Reads.answer (reads : link.Reads command b) (incoming : List InTransfer) :
    (link.request command (b.withArriving link.device incoming)).1 =
      (link.readPackets .empty incoming b).1 := by
  rw [request_answer, writePacket_withArriving, reads.written]
  dsimp only
  rw [if_neg reads.patient, Bench.device_withArriving reads.attached]
  exact link.readPackets_bench .empty incoming _ b

theorem request_of_not_reads (early : ¬link.Reads command b) (first second : List InTransfer) :
    (link.request command (b.withArriving link.device first)).1 =
      (link.request command (b.withArriving link.device second)).1 := by
  by_cases attached : link.device < b.usb.length
  · rw [request_answer, request_answer, writePacket_withArriving, writePacket_withArriving]
    cases written : (link.writePacket (encodeFrame command) b).1 with
    | error refused => rfl
    | ok =>
        have hurried : link.timeoutMs = 0 := by
          by_contra patient
          exact early ⟨attached, patient, written⟩
        dsimp only
        rw [if_pos hurried, if_pos hurried]
  · rw [Bench.withArriving_detached attached, Bench.withArriving_detached attached]

end UsbLink

/-- Only bytes that leave everything open are answered by a silence. -/
theorem verdict_eq_timeout_iff {stream : Bytes} :
    (verdict stream).1 = .error .timeout ↔ Undecided stream := by
  constructor
  · intro silent
    rcases undecided_or_decided stream with undecided | ⟨front, b, rest, rfl, undecided, decides⟩
    · exact undecided
    · rw [undecided.verdict_decided decides, decides.push_eq] at silent
      by_cases delimiter : b = 0
      · rw [if_pos delimiter] at silent
        dsimp only [answerTo] at silent
        cases read : FrameBuffer.decode ⟨front ++ [b]⟩ (front ++ [b]).length with
        | ok response =>
            rw [read] at silent
            cases silent
        | error e =>
            rw [read] at silent
            cases silent
      · rw [if_neg delimiter] at silent
        cases silent
  · intro undecided
    rw [undecided.verdict_eq]

/-- As many plain bytes as fit: they decide nothing, and any byte in front of them makes them do so. -/
def brimful : Bytes := List.replicate Protocol.maxFrameBytes 1

theorem undecided_brimful_append_iff {front : Bytes} : Undecided (front ++ brimful) ↔ front = [] := by
  constructor
  · intro undecided
    have fits := undecided.fits
    rw [List.length_append, brimful, List.length_replicate] at fits
    exact List.eq_nil_of_length_eq_zero (by omega)
  · rintro rfl
    exact ⟨by decide, Nat.le_of_eq List.length_replicate⟩

theorem UsbLink.readPackets_of_decided (link : UsbLink) {packets : List Bytes} {rest : Bytes}
    (decided : (verdict packets.flatten).2 = some rest) (later : List InTransfer) (b : Bench) :
    (link.readPackets .empty (packets.map .data ++ later) b).1 = (verdict packets.flatten).1 := by
  rw [link.readPackets_append .empty packets later b b, ← answerTo_push]
  rcases undecided_or_decided packets.flatten with undecided | ⟨front, c, behind, split, undecided, decides⟩
  · rw [undecided.verdict_eq] at decided
    cases decided
  · rw [split, FrameBuffer.push_append, undecided.push_eq]
    dsimp only
    rw [decides.push_eq]
    by_cases delimiter : c = 0
    · rw [if_pos delimiter]
    · rw [if_neg delimiter]

/-- Packets wait for a link when a command is requested. Once the request reads at all, they are part of
what is answered: what they decide is the answer to any command, whatever is sent later, and what is
sent in time is only added to them. So the answer is that of a request without them, for all that may
be sent, exactly if they hold no bytes. -/
theorem waiting_packets_are_heard (link : UsbLink) (command : Command) (b : Bench)
    (waiting : List Bytes) :
    let heard (later : List InTransfer) :=
      (link.request command (b.withArriving link.device (waiting.map .data ++ later))).1
    let plain (later : List InTransfer) :=
      (link.request command (b.withArriving link.device later)).1
    ((∀ later, heard later = plain later) ↔ link.Reads command b → waiting.flatten = []) ∧
      (link.Reads command b →
        (∀ rest, (verdict waiting.flatten).2 = some rest →
          ∀ later, heard later = (verdict waiting.flatten).1) ∧
        ∀ (sent : List Bytes) later, heard (sent.map .data ++ .pending :: later) =
          (verdict (waiting.flatten ++ sent.flatten)).1) := by
  intro heard plain
  have joined (reads : link.Reads command b) (packets sent : List Bytes) (later : List InTransfer) :
      (link.request command (b.withArriving link.device
        (packets.map .data ++ (sent.map .data ++ .pending :: later)))).1 =
          (verdict (packets.flatten ++ sent.flatten)).1 := by
    rw [reads.answer, ← List.append_assoc, ← List.map_append, link.readPackets_answer, answerTo_push,
      List.flatten_append]
  refine ⟨⟨?_, ?_⟩, ?_⟩
  · intro alike reads
    -- What is sent fills the buffer to the brim, so that a byte in front of it shows in the answer.
    have silent : (verdict ([] ++ [brimful].flatten)).1 = .error .timeout :=
      verdict_eq_timeout_iff.mpr (undecided_brimful_append_iff.mpr rfl)
    have same : (verdict (waiting.flatten ++ [brimful].flatten)).1 =
        (verdict ([] ++ [brimful].flatten)).1 :=
      (joined reads waiting [brimful] []).symm.trans ((alike _).trans (joined reads [] [brimful] []))
    exact undecided_brimful_append_iff.mp (verdict_eq_timeout_iff.mp (same.trans silent))
  · intro empty later
    by_cases reads : link.Reads command b
    · unfold heard plain
      rw [reads.answer, reads.answer, link.readPackets_append .empty waiting later b b, empty reads]
      rfl
    · exact UsbLink.request_of_not_reads reads _ _
  · intro reads
    refine ⟨fun rest decided later => ?_, fun sent later => joined reads waiting sent later⟩
    exact (reads.answer _).trans (link.readPackets_of_decided decided later b)

/-- A ping has timed out, and its answer comes late: it is taken for the answer to the reset that is
requested next, whose own answer is still to come. -/
theorem late_pong_answers_a_reset :
    let link : UsbLink := ⟨0, 129, 1, 64, 2000, .empty⟩
    let device : UsbDevice := ⟨0x1209, 1, some "SN1", [], [], [], none, [], [],
      [.pending, .data [2, 1, 0], .data [2, 2, 1, 0]]⟩
    let b : Bench := { Bench.empty with usb := [device] }
    let ping := link.request .ping b
    let reset (waiting : List Bytes) := ping.2.1.request .reset
      (ping.2.2.withArriving 0 (waiting.map .data ++ [.data [2, 2, 1, 0]]))
    ping.1 = .error .timeout ∧
      (ping.2.2.device 0).incoming = [.data [2, 1, 0], .data [2, 2, 1, 0]] ∧
      (reset [[2, 1, 0]]).1 = .ok .pong ∧ (reset []).1 = .ok (.ack .ok) ∧
      ¬∀ waiting, (reset waiting).1 = (reset []).1 := by
  intro link device b ping reset
  have late : (reset [[2, 1, 0]]).1 = .ok .pong := by decide +kernel
  have own : (reset []).1 = .ok (.ack .ok) := by decide +kernel
  refine ⟨by decide +kernel, by decide +kernel, late, own, ?_⟩
  intro alike
  cases late.symm.trans ((alike [[2, 1, 0]]).trans own)

end DeviceConnect
