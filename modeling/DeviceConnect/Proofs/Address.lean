import DeviceConnect.Address.Parser
import DeviceConnect.Proofs.Text
import Mathlib.Data.List.Basic

/-! Which addresses are read back from their canonical text: those without an empty field, whose
serial number holds no separator and whose bare path does not look tagged. Reading gives no others. -/
namespace DeviceConnect.Address

/-- An address that its canonical text leads back to. -/
def Canonical : Address → Prop
  | any => True
  | usb s => ∀ text ∈ s.serialNumber, text ≠ "" ∧ '/' ∉ text.toList
  | serial path => ∀ text ∈ path, text ≠ ""
  | host path => path ≠ "" ∧ ∀ t : Transport, ¬ t.tag.toList <+: path.toList

theorem mem_nonEmpty? {text found : String} :
    found ∈ nonEmpty? text ↔ found = text ∧ text ≠ "" := by
  unfold nonEmpty?
  by_cases empty : text = ""
  · simp [empty]
  · simp [empty, eq_comm]

/-- A wildcard field leaves its segment empty. -/
def segment (width : Nat) (value : Option Nat) : List Char := (value.map (Hex.upper width)).getD []

theorem hexField_eq (width : Nat) (value : Option Nat) :
    hexField width value = '/' :: segment width value := by
  cases value <;> rfl

theorem slash_not_mem_segment (width : Nat) (value : Option Nat) :
    '/' ∉ segment width value := by
  cases value with
  | none => exact List.not_mem_nil
  | some n => exact Hex.slash_not_mem_upper width n

theorem hexSegment_segment (field : HexField) {value : Option Nat}
    (fits : ∀ n ∈ value, n < Nat.pow 16 field.digits) :
    hexSegment field (segment field.digits value) = .ok value := by
  cases value with
  | none => rfl
  | some n =>
      have nonempty : (Hex.upper field.digits n).isEmpty = false := by
        cases field <;> rfl
      have width : ¬ field.digits < (Hex.upper field.digits n).length := by
        rw [Hex.length_upper]
        exact Nat.lt_irrefl _
      simp only [segment, Option.map_some, Option.getD_some, hexSegment, nonempty,
        Hex.value?_upper (fits n rfl), Bool.false_eq_true, if_false]
      exact if_neg width

theorem split_selector {serialNumber : List Char} (plain : '/' ∉ serialNumber)
    (vendor product interface : Option Nat) :
    Text.split '/' (segment 4 vendor ++ '/' :: (segment 4 product ++ '/' ::
        (segment 2 interface ++ '/' :: serialNumber))) =
      [segment 4 vendor, segment 4 product, segment 2 interface, serialNumber] := by
  rw [Text.split_append (slash_not_mem_segment 4 vendor),
    Text.split_append (slash_not_mem_segment 4 product),
    Text.split_append (slash_not_mem_segment 2 interface), Text.split_plain plain]

theorem lt_of_mem_map16 {value : Option UInt16} {n : Nat} (member : n ∈ value.map UInt16.toNat) :
    n < Nat.pow 16 4 := by
  obtain ⟨word, _, rfl⟩ := Option.map_eq_some_iff.mp member
  exact word.toNat_lt

theorem lt_of_mem_map8 {value : Option UInt8} {n : Nat} (member : n ∈ value.map UInt8.toNat) :
    n < Nat.pow 16 2 := by
  obtain ⟨byte, _, rfl⟩ := Option.map_eq_some_iff.mp member
  exact byte.toNat_lt

theorem readSelector_selectorText {s : UsbSelector} (canonical : (usb s).Canonical) :
    readSelector (selectorText s) = .ok s := by
  obtain ⟨vendorId, productId, interface, serialNumber⟩ := s
  have plain : '/' ∉ (serialNumber.getD "").toList := by
    cases serialNumber with
    | none => exact List.not_mem_nil
    | some text => exact (canonical text rfl).2
  have number : nonEmpty? (serialNumber.getD "") = serialNumber := by
    cases serialNumber with
    | none => rfl
    | some text => exact if_neg (canonical text rfl).1
  have vendor : hexSegment .vendor (segment 4 (vendorId.map UInt16.toNat)) = .ok _ :=
    hexSegment_segment .vendor fun _ => lt_of_mem_map16
  have product : hexSegment .product (segment 4 (productId.map UInt16.toNat)) = .ok _ :=
    hexSegment_segment .product fun _ => lt_of_mem_map16
  have interface : hexSegment .interface (segment 2 (interface.map UInt8.toNat)) = .ok _ :=
    hexSegment_segment .interface fun _ => lt_of_mem_map8
  have words : UInt16.ofNat ∘ UInt16.toNat = id := funext fun _ => UInt16.ofNat_toNat
  have bytes : UInt8.ofNat ∘ UInt8.toNat = id := funext fun _ => UInt8.ofNat_toNat
  simp only [selectorText, hexField_eq, List.cons_append, List.append_assoc, readSelector,
    split_selector plain]
  simp [usbSegments, vendor, product, interface, number, bind, Except.bind, pure, Except.pure,
    words, bytes]

section
variable {text : String} {rest : List Char}

theorem parse_of_usb (tagged : text.toList = Transport.usb.tag.toList ++ rest) :
    parse text = ((readSelector rest).map usb).mapError (AddressError.mk text) := by
  have nonempty : text ≠ "" := by
    rintro rfl
    cases tagged
  have behind : Transport.usb.tag.toList.isPrefixOf? text.toList = some rest :=
    List.isPrefixOf?_eq_some_iff_append_eq.mpr tagged.symm
  rw [parse, if_neg nonempty, behind]
  dsimp only
  cases readSelector rest with
  | error fault => rfl
  | ok s => rfl

theorem parse_of_serial (tagged : text.toList = Transport.serial.tag.toList ++ rest) :
    parse text = .ok (serial (nonEmpty? (String.ofList rest))) := by
  have nonempty : text ≠ "" := by
    rintro rfl
    cases tagged
  have other : Transport.usb.tag.toList.isPrefixOf? text.toList = none := by
    rw [tagged]
    rfl
  have behind : Transport.serial.tag.toList.isPrefixOf? text.toList = some rest :=
    List.isPrefixOf?_eq_some_iff_append_eq.mpr tagged.symm
  rw [parse, if_neg nonempty, other]
  simp only [behind]

theorem parse_of_untagged (nonempty : text ≠ "")
    (untagged : ∀ t : Transport, ¬t.tag.toList <+: text.toList) : parse text = .ok (host text) := by
  have other (t : Transport) : t.tag.toList.isPrefixOf? text.toList = none := by
    cases found : t.tag.toList.isPrefixOf? text.toList with
    | none => rfl
    | some rest => exact absurd ⟨rest, List.isPrefixOf?_eq_some_iff_append_eq.mp found⟩ (untagged t)
  rw [parse, if_neg nonempty, other .usb]
  simp only [other .serial]

end

theorem parse_format {a : Address} (canonical : a.Canonical) : parse a.format = .ok a := by
  cases a with
  | any => rfl
  | usb s =>
      rw [format, parse_of_usb (String.toList_ofList ..), readSelector_selectorText canonical]
      rfl
  | serial path =>
      have same : nonEmpty? (path.getD "") = path := by
        cases path with
        | none => rfl
        | some text => exact if_neg (canonical text rfl)
      rw [format, parse_of_serial (String.toList_ofList ..), String.ofList_toList, same]
  | host path => exact parse_of_untagged canonical.1 canonical.2

theorem canonical_of_nonEmpty? {cs : List Char} (plain : '/' ∉ cs) :
    ∀ text ∈ nonEmpty? (String.ofList cs), text ≠ "" ∧ '/' ∉ text.toList := by
  intro text member
  obtain ⟨rfl, nonempty⟩ := mem_nonEmpty?.mp member
  exact ⟨nonempty, by rwa [String.toList_ofList]⟩

theorem canonical_of_readSelector {cs : List Char} {s : UsbSelector}
    (read : readSelector cs = .ok s) : (usb s).Canonical := by
  unfold readSelector at read
  split at read
  · cases read
    intro text member
    cases member
  · next body =>
      have plain (i : Nat) : '/' ∉ (Text.split '/' body)[i]?.getD [] := by
        cases part : (Text.split '/' body)[i]? with
        | none => exact List.not_mem_nil
        | some found => exact Text.sep_not_mem_of_mem_split (List.mem_of_getElem? part)
      dsimp only [bind, Except.bind] at read
      split at read
      · cases read
      · split at read
        · cases read
        · split at read
          · cases read
          · split at read
            · cases read
            · cases read
              exact canonical_of_nonEmpty? (plain 3)
  · cases read

theorem canonical_of_parse {text : String} {a : Address} (read : parse text = .ok a) :
    a.Canonical := by
  by_cases usb : Transport.usb.tag.toList <+: text.toList
  · obtain ⟨rest, tagged⟩ := usb
    rw [parse_of_usb tagged.symm] at read
    cases selected : readSelector rest with
    | error fault =>
        rw [selected] at read
        cases read
    | ok s =>
        rw [selected] at read
        cases read
        exact canonical_of_readSelector selected
  · by_cases serial : Transport.serial.tag.toList <+: text.toList
    · obtain ⟨rest, tagged⟩ := serial
      rw [parse_of_serial tagged.symm] at read
      cases read
      intro path member
      exact (mem_nonEmpty?.mp member).1 ▸ (mem_nonEmpty?.mp member).2
    · by_cases empty : text = ""
      · subst empty
        cases read
        trivial
      · have untagged : ∀ t : Transport, ¬t.tag.toList <+: text.toList := by
          intro t
          cases t with
          | usb => exact usb
          | serial => exact serial
        rw [parse_of_untagged empty untagged] at read
        cases read
        exact ⟨empty, untagged⟩

/-- Canonical addresses and no others are read back from their text; every address that was read
is canonical, so its text is a fixed point of reading and writing. -/
theorem reads_back_iff_canonical :
    (∀ a : Address, parse a.format = .ok a ↔ a.Canonical) ∧
      ∀ text a, parse text = .ok a → a.Canonical ∧ parse a.format = .ok a ∧
        (parse a.format).map format = .ok a.format := by
  refine ⟨fun a => ⟨canonical_of_parse, parse_format⟩, fun text a read => ?_⟩
  have canonical := canonical_of_parse read
  have again := parse_format canonical
  exact ⟨canonical, again, congrArg (Except.map format) again⟩

theorem lower_case_selector_reads_back :
    parse "usb@/2e8a//1/Å 7" = .ok (usb ⟨some 0x2e8a, none, some 1, some "Å 7"⟩) ∧
      format (usb ⟨some 0x2e8a, none, some 1, some "Å 7"⟩) = "usb@/2E8A//01/Å 7" ∧
      parse "usb@/2E8A//01/Å 7" = .ok (usb ⟨some 0x2e8a, none, some 1, some "Å 7"⟩) := by
  have read : parse "usb@/2e8a//1/Å 7" = .ok (usb ⟨some 0x2e8a, none, some 1, some "Å 7"⟩) := by
    decide
  have written : format (usb ⟨some 0x2e8a, none, some 1, some "Å 7"⟩) = "usb@/2E8A//01/Å 7" := by
    decide
  exact ⟨read, written, written ▸ (reads_back_iff_canonical.2 _ _ read).2.1⟩

end DeviceConnect.Address
