import DeviceConnect.Proofs.Wire.Varint
import DeviceConnect.Wire.Message

/-! Messages survive the wire. A reader takes exactly what the writer wrote, whatever follows it,
and no message comes near the size of a frame. -/
namespace DeviceConnect.Wire

theorem decodeText_encodeText {s : String} (fits : s.utf8ByteSize < 2 ^ 64) (rest : Bytes) :
    decodeText (encodeText s ++ rest) = .ok (s, rest) := by
  have size : s.toByteArray.data.toList.length = s.utf8ByteSize := rfl
  have enough : ¬(s.toByteArray.data.toList ++ rest).length < s.utf8ByteSize := by
    rw [List.length_append, size]
    omega
  have text : String.fromUTF8? ⟨s.toByteArray.data.toList.toArray⟩ = some s := by
    rw [Array.toArray_toList, String.fromUTF8?]
    exact dif_pos s.isValidUTF8
  rw [encodeText, List.append_assoc, decodeText, Varint.decode_encode fits (by decide)]
  simp only [if_neg enough]
  rw [← size, List.take_left, List.drop_left, text]

theorem decodeMode_encodeMode (mode : FirmwareMode) (rest : Bytes) :
    decodeMode (encodeMode mode ++ rest) = .ok (mode, rest) := by
  cases mode <;> simp (disch := decide) only [encodeMode, decodeMode, Varint.decode_encode] <;> rfl

theorem decodeStatus_encodeStatus (status : AckStatus) (rest : Bytes) :
    decodeStatus (encodeStatus status ++ rest) = .ok (status, rest) := by
  cases status <;>
    simp (disch := decide) only [encodeStatus, decodeStatus, Varint.decode_encode] <;> rfl

theorem decodeText_serial (serial : SerialNumber) (rest : Bytes) :
    decodeText (encodeText serial.text ++ rest) = .ok (serial.text, rest) :=
  decodeText_encodeText (Nat.lt_of_le_of_lt serial.fits (by decide)) rest

theorem ofText?_serial (serial : SerialNumber) :
    SerialNumber.ofText? serial.text = some serial :=
  dif_pos serial.fits

theorem decodeHello_encodeHello (identity : DeviceHello) (rest : Bytes) :
    decodeHello (encodeHello identity ++ rest) = .ok (identity, rest) := by
  obtain ⟨version, mode, serial, firmware⟩ := identity
  have first := Varint.decode_encode version.toNat_lt (show 0 < 16 by decide)
  have last := Varint.decode_encode firmware.toNat_lt (show 0 < 32 by decide)
  simp only [encodeHello, decodeHello, List.append_assoc, first, decodeMode_encodeMode,
    decodeText_serial, bind, Except.bind, ofText?_serial, last]
  rw [UInt16.ofNat_toNat, UInt32.ofNat_toNat]
  rfl

theorem decodeResponse_encodeResponse (r : Response) (rest : Bytes) :
    decodeResponse (encodeResponse r ++ rest) = .ok (r, rest) := by
  cases r with
  | hello identity =>
      simp (disch := decide) only [encodeResponse, decodeResponse, List.append_assoc,
        Varint.decode_encode, bind, Except.bind, decodeHello_encodeHello]
      rfl
  | pong =>
      simp (disch := decide) only [encodeResponse, decodeResponse, Varint.decode_encode]
      rfl
  | ack status =>
      simp (disch := decide) only [encodeResponse, decodeResponse, List.append_assoc,
        Varint.decode_encode, bind, Except.bind, decodeStatus_encodeStatus]
      rfl

theorem decodeCommand_encodeCommand (c : Command) (rest : Bytes) :
    decodeCommand (encodeCommand c ++ rest) = .ok (c, rest) := by
  cases c with
  | hello version =>
      have value := Varint.decode_encode version.toNat_lt (show 0 < 16 by decide)
      simp (disch := decide) only [encodeCommand, decodeCommand, List.append_assoc,
        Varint.decode_encode, bind, Except.bind, value]
      rw [UInt16.ofNat_toNat]
      rfl
  | ping | reset | resetToBootloader =>
      simp (disch := decide) only [encodeCommand, decodeCommand, Varint.decode_encode]
      rfl

theorem length_encodeMode (mode : FirmwareMode) : (encodeMode mode).length = 1 := by
  cases mode <;> rw [encodeMode, Varint.encode_of_lt (by decide), List.length_singleton]

theorem length_encodeStatus (status : AckStatus) : (encodeStatus status).length = 1 := by
  cases status <;> rw [encodeStatus, Varint.encode_of_lt (by decide), List.length_singleton]

theorem length_serial_le (serial : SerialNumber) :
    (encodeText serial.text).length ≤ 1 + Protocol.maxSerialBytes := by
  have small : serial.text.utf8ByteSize < 128 := Nat.lt_of_le_of_lt serial.fits (by decide)
  have size : serial.text.toByteArray.data.toList.length = serial.text.utf8ByteSize := rfl
  rw [encodeText, Varint.encode_of_lt small, List.length_append, List.length_singleton, size]
  exact Nat.add_le_add_left serial.fits 1

theorem length_encodeHello_le (identity : DeviceHello) :
    (encodeHello identity).length ≤ 10 + Protocol.maxSerialBytes := by
  obtain ⟨version, mode, serial, firmware⟩ := identity
  have first := Varint.length_encode_le 2 version.toNat
    (Nat.lt_trans version.toNat_lt (by decide))
  have last := Varint.length_encode_le 4 firmware.toNat
    (Nat.lt_trans firmware.toNat_lt (by decide))
  have text := length_serial_le serial
  simp only [encodeHello, List.length_append, length_encodeMode]
  omega

theorem length_encodeResponse_le (r : Response) :
    (encodeResponse r).length ≤ 11 + Protocol.maxSerialBytes := by
  cases r with
  | hello identity =>
      have fields := length_encodeHello_le identity
      rw [encodeResponse, Varint.encode_of_lt (by decide), List.singleton_append, List.length_cons]
      omega
  | pong =>
      rw [encodeResponse, Varint.encode_of_lt (by decide), List.length_singleton]
      omega
  | ack status =>
      rw [encodeResponse, Varint.encode_of_lt (by decide), List.singleton_append, List.length_cons,
        length_encodeStatus]
      omega

theorem length_encodeCommand_le (c : Command) : (encodeCommand c).length ≤ 4 := by
  cases c with
  | hello version =>
      have value := Varint.length_encode_le 2 version.toNat
        (Nat.lt_trans version.toNat_lt (by decide))
      rw [encodeCommand, Varint.encode_of_lt (by decide), List.singleton_append, List.length_cons]
      omega
  | ping | reset | resetToBootloader =>
      rw [encodeCommand, Varint.encode_of_lt (by decide), List.length_singleton]
      omega

end DeviceConnect.Wire
