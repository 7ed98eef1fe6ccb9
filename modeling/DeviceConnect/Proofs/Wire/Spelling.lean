import DeviceConnect.Proofs.Json.Parsed
import DeviceConnect.Proofs.Text
import DeviceConnect.Proofs.Wire.Frame

/-! What accepted frames spell. A reader takes more spellings of a value than the writer uses, with
padded integers, blocks cut at will and bytes behind the message; none is shorter than the writer's. -/
namespace DeviceConnect.Wire

open Json (ok_of_bind ok_of_map)

/-! ### Integers -/

namespace Varint

/-- Bytes that spell an integer: groups of seven bits, least first, as many as one likes. -/
inductive Spells : Bytes → Nat → Prop where
  | last {b : UInt8} : b.toNat < 128 → Spells [b] b.toNat
  | more {b : UInt8} {bytes : Bytes} {high : Nat} : 128 ≤ b.toNat → Spells bytes high →
      Spells (b :: bytes) (b.toNat - 128 + 128 * high)

theorem Spells.length_encode_le {bytes : Bytes} {n : Nat} (spells : Spells bytes n) :
    (encode n).length ≤ bytes.length := by
  induction spells with
  | last small => rw [encode_of_lt small, List.length_singleton, List.length_singleton]
  | @more b bytes high large _ ih =>
      have byte := b.toNat_lt
      have upper : (b.toNat - 128 + 128 * high) / 128 = high := by omega
      by_cases small : b.toNat - 128 + 128 * high < 128
      · rw [encode_of_lt small, List.length_singleton, List.length_cons]
        omega
      · rw [encode_of_le (Nat.not_lt.mp small), upper, List.length_cons, List.length_cons]
        exact Nat.succ_le_succ ih

theorem spells_of_decodeWithin {last left n : Nat} {bytes rest : Bytes}
    (read : decodeWithin last left bytes = .ok (n, rest)) :
    ∃ used, bytes = used ++ rest ∧ Spells used n := by
  induction left generalizing bytes n with
  | zero => cases read
  | succ left ih =>
      cases bytes with
      | nil => cases read
      | cons b bytes =>
          rw [decodeWithin] at read
          split at read
          · next small =>
              split at read
              · cases read
              · cases read
                exact ⟨[b], rfl, .last small⟩
          · next large =>
              split at read
              · next later =>
                  cases read
                  obtain ⟨used, rfl, spells⟩ := ih later
                  exact ⟨b :: used, rfl, .more (Nat.not_lt.mp large) spells⟩
              · cases read

theorem lt_of_decodeWithin {last left n : Nat} {bytes rest : Bytes}
    (read : decodeWithin last (left + 1) bytes = .ok (n, rest)) : n < (last + 1) * 128 ^ left := by
  induction left generalizing bytes n with
  | zero =>
      cases bytes with
      | nil => cases read
      | cons b bytes =>
          rw [decodeWithin] at read
          split at read
          · split at read
            · cases read
            · next allowed =>
                cases read
                omega
          · cases read
  | succ left ih =>
      have room : 128 ^ (left + 1) ≤ (last + 1) * 128 ^ (left + 1) :=
        Nat.le_mul_of_pos_left _ (Nat.succ_pos last)
      have positive : 0 < 128 ^ left := Nat.pow_pos (by decide)
      rw [Nat.pow_succ] at room ⊢
      cases bytes with
      | nil => cases read
      | cons b bytes =>
          have byte := b.toNat_lt
          rw [decodeWithin] at read
          split at read
          · split at read
            · cases read
            · cases read
              omega
          · split at read
            · next later =>
                cases read
                have below := ih later
                rw [← Nat.mul_assoc]
                omega
            · cases read

theorem read_of_decode {bits n : Nat} {bytes rest : Bytes} (wide : 0 < bits)
    (read : decode bits bytes = .ok (n, rest)) :
    n < 2 ^ bits ∧ ∃ used, bytes = used ++ rest ∧ Spells used n := by
  refine ⟨?_, spells_of_decodeWithin read⟩
  obtain ⟨left, count, _, room⟩ := exists_room wide
  rw [decode, count] at read
  exact room ▸ lt_of_decodeWithin read

end Varint

/-! ### Messages -/

inductive SpellsMode : Bytes → FirmwareMode → Prop where
  | normal {bytes} : Varint.Spells bytes 0 → SpellsMode bytes .normal
  | bootloader {bytes} : Varint.Spells bytes 1 → SpellsMode bytes .bootloader

inductive SpellsStatus : Bytes → AckStatus → Prop where
  | ok {bytes} : Varint.Spells bytes 0 → SpellsStatus bytes .ok
  | badCommand {bytes} : Varint.Spells bytes 1 → SpellsStatus bytes .badCommand
  | badState {bytes} : Varint.Spells bytes 2 → SpellsStatus bytes .badState

/-- A text is spelled by its byte count and its bytes. -/
inductive SpellsText : Bytes → String → Prop where
  | counted {size} {text : String} : Varint.Spells size text.utf8ByteSize →
      SpellsText (size ++ text.toByteArray.data.toList) text

/-- The integers are in range as they stand in the bytes, and so is the size of the serial number. -/
inductive SpellsHello : Bytes → DeviceHello → Prop where
  | fields {first second third last : Bytes} {version firmware : Nat} {mode : FirmwareMode}
      {serial : String} :
      Varint.Spells first version → version < 2 ^ 16 → SpellsMode second mode →
      SpellsText third serial → (fits : serial.utf8ByteSize ≤ Protocol.maxSerialBytes) →
      Varint.Spells last firmware → firmware < 2 ^ 32 →
      SpellsHello (first ++ second ++ third ++ last)
        ⟨UInt16.ofNat version, mode, ⟨serial, fits⟩, UInt32.ofNat firmware⟩

inductive SpellsResponse : Bytes → Response → Prop where
  | hello {index fields identity} : Varint.Spells index 0 → SpellsHello fields identity →
      SpellsResponse (index ++ fields) (.hello identity)
  | pong {index} : Varint.Spells index 1 → SpellsResponse index .pong
  | ack {index field status} : Varint.Spells index 2 → SpellsStatus field status →
      SpellsResponse (index ++ field) (.ack status)

/-- A reader takes a front of the bytes that spells its value, and leaves the rest. -/
def Takes {α : Type} (spells : Bytes → α → Prop) (reader : Reader α) : Prop :=
  ∀ bytes value rest, reader bytes = .ok (value, rest) →
    ∃ used, bytes = used ++ rest ∧ spells used value

theorem takes_decodeMode : Takes SpellsMode decodeMode := by
  intro bytes mode rest read
  obtain ⟨⟨n, left⟩, number, read⟩ := ok_of_bind read
  obtain ⟨_, used, rfl, spells⟩ := Varint.read_of_decode (by decide) number
  match n with
  | 0 =>
      cases read
      exact ⟨used, rfl, .normal spells⟩
  | 1 =>
      cases read
      exact ⟨used, rfl, .bootloader spells⟩
  | _ + 2 => cases read

theorem takes_decodeStatus : Takes SpellsStatus decodeStatus := by
  intro bytes status rest read
  obtain ⟨⟨n, left⟩, number, read⟩ := ok_of_bind read
  obtain ⟨_, used, rfl, spells⟩ := Varint.read_of_decode (by decide) number
  match n with
  | 0 =>
      cases read
      exact ⟨used, rfl, .ok spells⟩
  | 1 =>
      cases read
      exact ⟨used, rfl, .badCommand spells⟩
  | 2 =>
      cases read
      exact ⟨used, rfl, .badState spells⟩
  | _ + 3 => cases read

theorem takes_decodeText : Takes SpellsText decodeText := by
  intro bytes text rest read
  unfold decodeText at read
  split at read
  · cases read
  · next size left number =>
      obtain ⟨_, used, rfl, spells⟩ := Varint.read_of_decode (by decide) number
      split at read
      · cases read
      · next enough =>
          split at read
          · next found decoded =>
              cases read
              have content : text.toByteArray.data.toList = left.take size := by
                rw [Text.toByteArray_of_fromUTF8? decoded]
              have count : text.utf8ByteSize = size := by
                change text.toByteArray.data.toList.length = size
                rw [content, List.length_take]
                omega
              refine ⟨used ++ left.take size, ?_, content ▸ .counted (count ▸ spells)⟩
              rw [List.append_assoc, List.take_append_drop]
          · cases read

theorem serial_of_ofText? {text : String} {serial : SerialNumber}
    (named : SerialNumber.ofText? text = some serial) : serial.text = text := by
  unfold SerialNumber.ofText? at named
  split at named
  · cases named
    rfl
  · cases named

theorem takes_decodeHello : Takes SpellsHello decodeHello := by
  intro bytes identity rest read
  obtain ⟨⟨version, left⟩, first, read⟩ := ok_of_bind read
  obtain ⟨⟨mode, left⟩, second, read⟩ := ok_of_bind read
  obtain ⟨⟨text, left⟩, third, read⟩ := ok_of_bind read
  dsimp only at read
  split at read
  · cases read
  · next serial named =>
      obtain ⟨⟨firmware, left⟩, last, read⟩ := ok_of_bind read
      cases read
      obtain ⟨small, versionBytes, rfl, versionSpelled⟩ := Varint.read_of_decode (by decide) first
      obtain ⟨modeBytes, rfl, modeSpelled⟩ := takes_decodeMode _ _ _ second
      obtain ⟨serialBytes, rfl, serialSpelled⟩ := takes_decodeText _ _ _ third
      obtain ⟨little, firmwareBytes, rfl, firmwareSpelled⟩ := Varint.read_of_decode (by decide) last
      obtain rfl := serial_of_ofText? named
      refine ⟨versionBytes ++ modeBytes ++ serialBytes ++ firmwareBytes, ?_, ?_⟩
      · simp only [List.append_assoc]
      · exact .fields versionSpelled small modeSpelled serialSpelled serial.fits firmwareSpelled little

theorem takes_decodeResponse : Takes SpellsResponse decodeResponse := by
  intro bytes response rest read
  obtain ⟨⟨n, left⟩, number, read⟩ := ok_of_bind read
  obtain ⟨_, index, rfl, spells⟩ := Varint.read_of_decode (by decide) number
  match n with
  | 0 =>
      obtain ⟨⟨identity, left⟩, fields, read⟩ := ok_of_bind read
      cases read
      obtain ⟨used, rfl, spelled⟩ := takes_decodeHello _ _ _ fields
      exact ⟨index ++ used, (List.append_assoc _ _ _).symm, .hello spells spelled⟩
  | 1 =>
      cases read
      exact ⟨index, rfl, .pong spells⟩
  | 2 =>
      obtain ⟨⟨status, left⟩, field, read⟩ := ok_of_bind read
      cases read
      obtain ⟨used, rfl, spelled⟩ := takes_decodeStatus _ _ _ field
      exact ⟨index ++ used, (List.append_assoc _ _ _).symm, .ack spells spelled⟩
  | _ + 3 => cases read

/-! ### Lengths -/

theorem SpellsMode.length_encodeMode_le {bytes : Bytes} {mode : FirmwareMode}
    (spells : SpellsMode bytes mode) : (encodeMode mode).length ≤ bytes.length := by
  cases spells with
  | normal index => exact index.length_encode_le
  | bootloader index => exact index.length_encode_le

theorem SpellsStatus.length_encodeStatus_le {bytes : Bytes} {status : AckStatus}
    (spells : SpellsStatus bytes status) : (encodeStatus status).length ≤ bytes.length := by
  cases spells with
  | ok index => exact index.length_encode_le
  | badCommand index => exact index.length_encode_le
  | badState index => exact index.length_encode_le

theorem SpellsText.length_encodeText_le {bytes : Bytes} {text : String}
    (spells : SpellsText bytes text) : (encodeText text).length ≤ bytes.length := by
  cases spells with
  | counted size =>
      rw [encodeText, List.length_append, List.length_append]
      exact Nat.add_le_add_right size.length_encode_le _

theorem SpellsHello.length_encodeHello_le {bytes : Bytes} {identity : DeviceHello}
    (spells : SpellsHello bytes identity) : (encodeHello identity).length ≤ bytes.length := by
  cases spells with
  | fields version small mode serial fits firmware little =>
      have first := version.length_encode_le
      have second := mode.length_encodeMode_le
      have third := serial.length_encodeText_le
      have last := firmware.length_encode_le
      simp only [encodeHello, UInt16.toNat_ofNat_of_lt' small, UInt32.toNat_ofNat_of_lt' little,
        List.length_append]
      omega

/-- The writer's bytes are the shortest spelling. -/
theorem SpellsResponse.length_encodeResponse_le {bytes : Bytes} {r : Response}
    (spells : SpellsResponse bytes r) : (encodeResponse r).length ≤ bytes.length := by
  cases spells with
  | hello index fields =>
      rw [encodeResponse, List.length_append, List.length_append]
      exact Nat.add_le_add index.length_encode_le fields.length_encodeHello_le
  | pong index => exact index.length_encode_le
  | ack index field =>
      rw [encodeResponse, List.length_append, List.length_append]
      exact Nat.add_le_add index.length_encode_le field.length_encodeStatus_le

/-- Every block has a code byte, and only between blocks is a zero written for it. -/
theorem Stuffing.length_unstuff_lt {stuffed : Bytes} (nonempty : stuffed ≠ []) :
    (unstuff stuffed).written.length < stuffed.length := by
  induction stuffed using unstuff.induct with
  | case1 => exact absurd rfl nonempty
  | case2 code rest count short =>
      rw [unstuff, if_pos short]
      exact Nat.succ_pos _
  | case3 code rest count whole tail ih =>
      have split : tail.length = rest.length - count := List.length_drop
      have zero : (if code ≠ 255 ∧ tail ≠ [] then [(0 : UInt8)] else []).length ≤ 1 := by
        split <;> simp
      rw [unstuff, if_neg whole]
      change (rest.take count ++ (if code ≠ 255 ∧ tail ≠ [] then [0] else []) ++
        (unstuff tail).written).length < _
      rw [List.length_append, List.length_append, List.length_take, List.length_cons]
      by_cases last : tail = []
      · rw [if_neg fun between => between.2 last, last, unstuff]
        simp only [List.length_nil]
        omega
      · have later := ih last
        omega

/-! ### Frames -/

def front (buffer : Bytes) : Bytes := buffer.takeWhile (· ≠ 0)

theorem ne_nil_of_decoded {stuffed payload rest : Bytes} {r : Response}
    (unstuffed : Stuffing.unstuff stuffed = ⟨payload, true⟩)
    (decoded : decodeResponse payload = .ok (r, rest)) : stuffed ≠ [] := by
  rintro rfl
  rw [Stuffing.unstuff] at unstuffed
  cases unstuffed
  cases decoded

theorem decodeFrame_eq_ok_iff {buffer : Bytes} {r : Response} :
    decodeFrame buffer = .ok r ↔
      ∃ payload rest, Stuffing.unstuff (front buffer) = ⟨payload, true⟩ ∧
        decodeResponse payload = .ok (r, rest) := by
  have opened : decodeFrame buffer = .ok r ↔ (openFrame decodeResponse buffer).result = .ok r := by
    unfold decodeFrame
    generalize openFrame decodeResponse buffer = opened
    obtain ⟨left, e | found⟩ := opened <;> simp
  rw [opened]
  constructor
  · intro accepted
    unfold openFrame at accepted
    split at accepted
    · cases accepted
    · dsimp only at accepted
      split at accepted
      · next complete =>
          obtain ⟨⟨found, rest⟩, decoded, rfl⟩ := ok_of_map accepted
          refine ⟨_, rest, ?_, decoded⟩
          rw [front, ← complete]
      · cases accepted
  · rintro ⟨payload, rest, unstuffed, decoded⟩
    have nonempty : buffer ≠ [] := by
      rintro rfl
      exact ne_nil_of_decoded unstuffed decoded rfl
    rw [openFrame, if_neg (by simpa using nonempty)]
    rw [front] at unstuffed
    simp only [unstuffed, decoded, if_true, Except.map]

theorem length_encodeReply_le (r : Response) :
    (encodeReply r).length ≤ (encodeResponse r).length + 2 := by
  have short := length_encodeResponse_le r
  have size := Stuffing.length_stuff_le (encodeResponse r)
  unfold Protocol.maxSerialBytes at short
  unfold Stuffing.maxBlock at size
  rw [encodeReply, frameOf, List.length_append, List.length_singleton]
  omega

/-- Whatever is accepted is spelled at the beginning of what the front unstuffs to, with every integer
in range; it is read back from its own frame, than which no frame accepted for it is shorter. Bytes
behind the front change neither whether a buffer is accepted nor for what. -/
theorem accepted_frames_spell (buffer : Bytes) :
    (∀ r, decodeFrame buffer = .ok r →
      (∃ message padding, Stuffing.unstuff (front buffer) = ⟨message ++ padding, true⟩ ∧
        SpellsResponse message r) ∧
      decodeFrame (encodeReply r) = .ok r ∧
      (encodeReply r).length ≤ (front buffer).length + 1) ∧
    ∀ other, front other = front buffer →
      (decodeFrame other).toOption = (decodeFrame buffer).toOption := by
  constructor
  · intro r accepted
    obtain ⟨payload, padding, unstuffed, decoded⟩ := decodeFrame_eq_ok_iff.mp accepted
    have written := Stuffing.length_unstuff_lt (ne_nil_of_decoded unstuffed decoded)
    obtain ⟨message, rfl, spells⟩ := takes_decodeResponse _ _ _ decoded
    refine ⟨⟨message, padding, unstuffed, spells⟩, decodeFrame_encodeReply r, ?_⟩
    have shortest := spells.length_encodeResponse_le
    have framed := length_encodeReply_le r
    rw [unstuffed, List.length_append] at written
    omega
  · intro other same
    have accepts (frame : Bytes) (r : Response) :
        (decodeFrame frame).toOption = some r ↔ decodeFrame frame = .ok r := by
      cases decodeFrame frame <;> simp [Except.toOption]
    refine Option.ext fun r => ?_
    rw [accepts, accepts, decodeFrame_eq_ok_iff, decodeFrame_eq_ok_iff, same]

/-- A greeting with padded integers, a byte behind the message and one behind the delimiter; and the
same without its delimiter. -/
theorem padded_greeting_is_accepted :
    let buffer : Bytes :=
      [0x02, 0x80, 0x03, 0x82, 0x80, 0x01, 0x02, 0x81, 0x04, 0x41, 0x07, 0xAA, 0x00, 0xFF]
    let r : Response := .hello ⟨2, .normal, ⟨"A", by decide⟩, 7⟩
    decodeFrame buffer = .ok r ∧ front (front buffer) = front buffer ∧
      (∃ message padding, Stuffing.unstuff (front buffer) = ⟨message ++ padding, true⟩ ∧
        SpellsResponse message r) ∧
      decodeFrame (encodeReply r) = .ok r ∧ (encodeReply r).length ≤ 13 ∧
      (decodeFrame (front buffer)).toOption = some r := by
  intro buffer r
  have accepted : decodeFrame buffer = .ok r := by decide +kernel
  have undelimited : front (front buffer) = front buffer := by decide +kernel
  obtain ⟨spelled, indifferent⟩ := accepted_frames_spell buffer
  obtain ⟨message, again, short⟩ := spelled r accepted
  have alike := indifferent (front buffer) undelimited
  rw [accepted] at alike
  exact ⟨accepted, undelimited, message, again, short, alike⟩

end DeviceConnect.Wire
