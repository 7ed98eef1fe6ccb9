import DeviceConnect.Proofs.Address
import DeviceConnect.Proofs.Digits

/-! The grammar of address texts, and what each text of it means. A text is refused only behind the
tag of USB addresses; each refusal is that of the first segment that is at fault. Segments are judged
by their bytes, and the parser, which goes by characters, judges alike. -/
namespace DeviceConnect

open Text (Plain joined)

def HexField.index : HexField → Nat
  | vendor => 0
  | product => 1
  | interface => 2

namespace Address

def segmentAt (parts : List (List Char)) (place : Nat) : List Char := parts[place]?.getD []

/-- A segment that is empty, or made up of digits and no longer than its field is wide. -/
def Admits (field : HexField) (segment : List Char) : Prop :=
  segment = [] ∨
    (∀ b ∈ Text.bytes segment, Hex.IsDigit b) ∧ (Text.bytes segment).length ≤ field.digits

/-- What is wrong with a segment. The width of one that is no number is not looked at. -/
inductive Faulty (field : HexField) (segment : List Char) : AddressFault → Prop
  | notHex : (∃ b ∈ Text.bytes segment, ¬Hex.IsDigit b) → Faulty field segment (.notHex field)
  | tooWide : (∀ b ∈ Text.bytes segment, Hex.IsDigit b) →
      field.digits < (Text.bytes segment).length → Faulty field segment (.tooWide field)

/-- The number of a segment; an empty one is a wildcard. -/
def number? (segment : List Char) : Option Nat :=
  if segment = [] then none else some (Hex.number (Text.bytes segment))

def text? (segment : List Char) : Option String :=
  if segment = [] then none else some (String.ofList segment)

theorem hexSegment_cases (field : HexField) (segment : List Char) :
    Admits field segment ∧ hexSegment field segment = .ok (number? segment) ∨
      ∃ fault, Faulty field segment fault ∧ hexSegment field segment = .error fault := by
  unfold hexSegment number?
  by_cases empty : segment = []
  · subst empty
    exact .inl ⟨.inl rfl, rfl⟩
  · rw [if_neg (by simpa using empty), if_neg empty]
    rcases Hex.go_cases segment 0 with ⟨all, length, read⟩ | ⟨other, refused⟩
    · rw [Nat.mul_zero, Nat.zero_add] at read
      rw [Hex.value?, read]
      by_cases wide : field.digits < segment.length
      · exact .inr ⟨_, .tooWide all (length ▸ wide), if_pos wide⟩
      · exact .inl ⟨.inr ⟨all, length ▸ Nat.le_of_not_lt wide⟩, if_neg wide⟩
    · rw [Hex.value?, refused]
      exact .inr ⟨_, .notHex other, rfl⟩

theorem Admits.not_faulty {field : HexField} {segment : List Char} (admits : Admits field segment)
    (fault : AddressFault) : ¬Faulty field segment fault := by
  intro faulty
  rcases admits with rfl | ⟨all, fits⟩
  · cases faulty with
    | notHex other => obtain ⟨_, row, _⟩ := other; cases row
    | tooWide _ wide => exact absurd wide (Nat.not_lt_zero _)
  · cases faulty with
    | notHex other =>
        obtain ⟨b, row, other⟩ := other
        exact other (all b row)
    | tooWide _ wide => exact absurd wide (Nat.not_lt_of_le fits)

theorem hexSegment_of_admits {field : HexField} {segment : List Char}
    (admits : Admits field segment) : hexSegment field segment = .ok (number? segment) := by
  rcases hexSegment_cases field segment with ⟨_, read⟩ | ⟨fault, faulty, _⟩
  · exact read
  · exact absurd faulty (admits.not_faulty fault)

theorem Faulty.unique {field : HexField} {segment : List Char} {fault fault' : AddressFault}
    (faulty : Faulty field segment fault) (faulty' : Faulty field segment fault') :
    fault = fault' := by
  cases faulty with
  | notHex other =>
      cases faulty' with
      | notHex _ => rfl
      | tooWide all _ =>
          obtain ⟨b, row, other⟩ := other
          exact absurd (all b row) other
  | tooWide all _ =>
      cases faulty' with
      | notHex other =>
          obtain ⟨b, row, other⟩ := other
          exact absurd (all b row) other
      | tooWide _ _ => rfl

theorem hexSegment_of_faulty {field : HexField} {segment : List Char} {fault : AddressFault}
    (faulty : Faulty field segment fault) : hexSegment field segment = .error fault := by
  rcases hexSegment_cases field segment with ⟨admits, _⟩ | ⟨fault', faulty', refused⟩
  · exact absurd faulty (admits.not_faulty fault)
  · rw [refused, faulty'.unique faulty]

theorem number?_lt {field : HexField} {segment : List Char} (admits : Admits field segment) :
    ∀ n ∈ number? segment, n < 16 ^ field.digits := by
  intro n member
  unfold number? at member
  split at member
  · cases member
  · next nonempty =>
      obtain ⟨all, fits⟩ := admits.resolve_left nonempty
      obtain rfl := Option.some.inj member
      exact Nat.lt_of_lt_of_le (Hex.number_lt all) (Nat.pow_le_pow_right (by decide) fits)

/-! ### Selectors -/

/-- What refuses the text behind the tag of a USB address. -/
inductive Refusal : List Char → AddressFault → Prop
  | missingSeparator {rest} : rest ≠ [] → rest.head? ≠ some '/' → Refusal rest .missingSeparator
  | tooManySegments {parts} : Plain '/' parts → usbSegments < parts.length →
      Refusal (joined '/' parts) .tooManySegments
  /-- The segments before the one that is named are in order. -/
  | segment {parts field fault} : Plain '/' parts → parts.length ≤ usbSegments →
      (∀ earlier : HexField, earlier.index < field.index →
        Admits earlier (segmentAt parts earlier.index)) →
      Faulty field (segmentAt parts field.index) fault → Refusal (joined '/' parts) fault

/-- The selector that some segments denote. -/
structure Denotes (parts : List (List Char)) (s : UsbSelector) : Prop where
  few : parts.length ≤ usbSegments
  admitted : ∀ field : HexField, Admits field (segmentAt parts field.index)
  vendorId : s.vendorId.map UInt16.toNat = number? (segmentAt parts HexField.vendor.index)
  productId : s.productId.map UInt16.toNat = number? (segmentAt parts HexField.product.index)
  interface : s.interface.map UInt8.toNat = number? (segmentAt parts HexField.interface.index)
  serialNumber : s.serialNumber = text? (segmentAt parts 3)

/-- What is read of segments, before their number is looked at. -/
def readSegments (parts : List (List Char)) : Except AddressFault UsbSelector := do
  let vendor ← hexSegment .vendor (segmentAt parts 0)
  let product ← hexSegment .product (segmentAt parts 1)
  let interface ← hexSegment .interface (segmentAt parts 2)
  return {
    vendorId := vendor.map UInt16.ofNat
    productId := product.map UInt16.ofNat
    interface := interface.map UInt8.ofNat
    serialNumber := nonEmpty? (String.ofList (segmentAt parts 3)) }

theorem readSelector_joined {parts : List (List Char)} (plain : Plain '/' parts) :
    readSelector (joined '/' parts) =
      if usbSegments < parts.length then .error .tooManySegments else readSegments parts := by
  cases parts with
  | nil => rfl
  | cons first rest =>
      have shape : joined '/' (first :: rest) = '/' :: (first ++ joined '/' rest) := rfl
      rw [shape, readSelector, Text.split_joined plain]
      split
      · rfl
      · rfl

theorem readSelector_of_head {rest : List Char} (nonempty : rest ≠ [])
    (other : rest.head? ≠ some '/') : readSelector rest = .error .missingSeparator := by
  unfold readSelector
  split
  · exact absurd rfl nonempty
  · exact absurd rfl other
  · rfl

theorem map_toNat16 {number : Option Nat} (fits : ∀ n ∈ number, n < 16 ^ 4) :
    (number.map UInt16.ofNat).map UInt16.toNat = number := by
  cases number with
  | none => rfl
  | some n => exact congrArg some (UInt16.toNat_ofNat_of_lt' (fits n rfl))

theorem map_toNat8 {number : Option Nat} (fits : ∀ n ∈ number, n < 16 ^ 2) :
    (number.map UInt8.ofNat).map UInt8.toNat = number := by
  cases number with
  | none => rfl
  | some n => exact congrArg some (UInt8.toNat_ofNat_of_lt' (fits n rfl))

theorem map_ofNat16 (word : Option UInt16) : (word.map UInt16.toNat).map UInt16.ofNat = word := by
  cases word with
  | none => rfl
  | some w => exact congrArg some UInt16.ofNat_toNat

theorem map_ofNat8 (byte : Option UInt8) : (byte.map UInt8.toNat).map UInt8.ofNat = byte := by
  cases byte with
  | none => rfl
  | some b => exact congrArg some UInt8.ofNat_toNat

theorem nonEmpty?_ofList (cs : List Char) : nonEmpty? (String.ofList cs) = text? cs := by
  simp only [nonEmpty?, text?, String.ofList_eq_empty_iff]

theorem text?_injective {cs cs' : List Char} (same : text? cs = text? cs') : cs = cs' := by
  unfold text? at same
  by_cases empty : cs = []
  · by_cases empty' : cs' = []
    · rw [empty, empty']
    · rw [if_pos empty, if_neg empty'] at same
      cases same
  · by_cases empty' : cs' = []
    · rw [if_neg empty, if_pos empty'] at same
      cases same
    · rw [if_neg empty, if_neg empty'] at same
      exact String.ofList_injective (Option.some.inj same)

theorem exists_denotes {parts : List (List Char)} (few : parts.length ≤ usbSegments)
    (admitted : ∀ field : HexField, Admits field (segmentAt parts field.index)) :
    ∃ s, Denotes parts s :=
  ⟨⟨_, _, _, _⟩, {
    few
    admitted
    vendorId := map_toNat16 (number?_lt (admitted .vendor))
    productId := map_toNat16 (number?_lt (admitted .product))
    interface := map_toNat8 (number?_lt (admitted .interface))
    serialNumber := rfl }⟩

theorem readSegments_of_denotes {parts : List (List Char)} {s : UsbSelector}
    (denotes : Denotes parts s) : readSegments parts = .ok s := by
  have vendor : hexSegment .vendor (segmentAt parts 0) = .ok (s.vendorId.map UInt16.toNat) :=
    denotes.vendorId ▸ hexSegment_of_admits (denotes.admitted .vendor)
  have product : hexSegment .product (segmentAt parts 1) = .ok (s.productId.map UInt16.toNat) :=
    denotes.productId ▸ hexSegment_of_admits (denotes.admitted .product)
  have interface : hexSegment .interface (segmentAt parts 2) = .ok (s.interface.map UInt8.toNat) :=
    denotes.interface ▸ hexSegment_of_admits (denotes.admitted .interface)
  have serialNumber : nonEmpty? (String.ofList (segmentAt parts 3)) = s.serialNumber :=
    (nonEmpty?_ofList _).trans denotes.serialNumber.symm
  simp only [readSegments, vendor, product, interface, serialNumber, bind, Except.bind, pure,
    Except.pure, map_ofNat16, map_ofNat8]

theorem readSegments_of_faulty {parts : List (List Char)} {field : HexField} {fault : AddressFault}
    (before : ∀ earlier : HexField, earlier.index < field.index →
      Admits earlier (segmentAt parts earlier.index))
    (faulty : Faulty field (segmentAt parts field.index) fault) :
    readSegments parts = .error fault := by
  have refused := hexSegment_of_faulty faulty
  unfold readSegments
  cases field with
  | vendor =>
      change hexSegment .vendor (segmentAt parts 0) = _ at refused
      rw [refused]
      rfl
  | product =>
      change hexSegment .product (segmentAt parts 1) = _ at refused
      have vendor : hexSegment .vendor (segmentAt parts 0) = _ :=
        hexSegment_of_admits (before .vendor (by decide))
      rw [vendor, refused]
      rfl
  | interface =>
      change hexSegment .interface (segmentAt parts 2) = _ at refused
      have vendor : hexSegment .vendor (segmentAt parts 0) = _ :=
        hexSegment_of_admits (before .vendor (by decide))
      have product : hexSegment .product (segmentAt parts 1) = _ :=
        hexSegment_of_admits (before .product (by decide))
      rw [vendor, product, refused]
      rfl

theorem readSelector_of_refusal {rest : List Char} {fault : AddressFault}
    (refusal : Refusal rest fault) : readSelector rest = .error fault := by
  cases refusal with
  | missingSeparator nonempty other => exact readSelector_of_head nonempty other
  | tooManySegments plain many => rw [readSelector_joined plain, if_pos many]
  | segment plain few before faulty =>
      rw [readSelector_joined plain, if_neg (Nat.not_lt_of_le few)]
      exact readSegments_of_faulty before faulty

theorem readSelector_of_denotes {parts : List (List Char)} {s : UsbSelector}
    (plain : Plain '/' parts) (denotes : Denotes parts s) :
    readSelector (joined '/' parts) = .ok s := by
  rw [readSelector_joined plain, if_neg (Nat.not_lt_of_le denotes.few)]
  exact readSegments_of_denotes denotes

theorem admitted_or_faulty (parts : List (List Char)) :
    (∀ field : HexField, Admits field (segmentAt parts field.index)) ∨
      ∃ (field : HexField) (fault : AddressFault),
        (∀ earlier : HexField, earlier.index < field.index →
          Admits earlier (segmentAt parts earlier.index)) ∧
        Faulty field (segmentAt parts field.index) fault := by
  rcases hexSegment_cases .vendor (segmentAt parts 0) with ⟨vendor, _⟩ | ⟨fault, faulty, _⟩
  · rcases hexSegment_cases .product (segmentAt parts 1) with ⟨product, _⟩ | ⟨fault, faulty, _⟩
    · rcases hexSegment_cases .interface (segmentAt parts 2) with ⟨interface, _⟩ | ⟨fault, faulty, _⟩
      · refine .inl fun field => ?_
        cases field with
        | vendor => exact vendor
        | product => exact product
        | interface => exact interface
      · refine .inr ⟨.interface, fault, fun earlier before => ?_, faulty⟩
        cases earlier with
        | vendor => exact vendor
        | product => exact product
        | interface => exact absurd before (by decide)
    · refine .inr ⟨.product, fault, fun earlier before => ?_, faulty⟩
      cases earlier with
      | vendor => exact vendor
      | product => exact absurd before (by decide)
      | interface => exact absurd before (by decide)
  · refine .inr ⟨.vendor, fault, fun earlier before => ?_, faulty⟩
    cases earlier <;> exact absurd before (by decide)

/-- Every text behind the tag is refused, or made up of segments that denote a selector. -/
theorem refusal_or_denotes (rest : List Char) :
    (∃ fault, Refusal rest fault) ∨
      ∃ parts s, Plain '/' parts ∧ rest = joined '/' parts ∧ Denotes parts s := by
  have shape : (rest ≠ [] ∧ rest.head? ≠ some '/') ∨
      ∃ parts, Plain '/' parts ∧ rest = joined '/' parts := by
    cases rest with
    | nil => exact .inr ⟨[], nofun, rfl⟩
    | cons c body =>
        by_cases separated : c = '/'
        · subst separated
          exact .inr ⟨_, Text.plain_split '/' body, (Text.joined_split '/' body).symm⟩
        · exact .inl ⟨List.cons_ne_nil c body, fun same => separated (Option.some.inj same)⟩
  rcases shape with ⟨nonempty, other⟩ | ⟨parts, plain, rfl⟩
  · exact .inl ⟨_, .missingSeparator nonempty other⟩
  · by_cases many : usbSegments < parts.length
    · exact .inl ⟨_, .tooManySegments plain many⟩
    · have few := Nat.le_of_not_lt many
      rcases admitted_or_faulty parts with admitted | ⟨field, fault, before, faulty⟩
      · obtain ⟨s, denotes⟩ := exists_denotes few admitted
        exact .inr ⟨parts, s, plain, rfl, denotes⟩
      · exact .inl ⟨fault, .segment plain few before faulty⟩

theorem readSelector_eq_ok_iff {rest : List Char} {s : UsbSelector} :
    readSelector rest = .ok s ↔
      ∃ parts, Plain '/' parts ∧ rest = joined '/' parts ∧ Denotes parts s := by
  constructor
  · intro read
    rcases refusal_or_denotes rest with ⟨fault, refusal⟩ | ⟨parts, s', plain, rfl, denotes⟩
    · rw [readSelector_of_refusal refusal] at read
      cases read
    · rw [readSelector_of_denotes plain denotes] at read
      cases read
      exact ⟨parts, plain, rfl, denotes⟩
  · rintro ⟨parts, plain, rfl, denotes⟩
    exact readSelector_of_denotes plain denotes

theorem Denotes.eq_iff {parts parts' : List (List Char)} {s s' : UsbSelector}
    (denotes : Denotes parts s) (denotes' : Denotes parts' s') :
    s = s' ↔
      (∀ field : HexField, number? (segmentAt parts field.index) =
        number? (segmentAt parts' field.index)) ∧
      segmentAt parts 3 = segmentAt parts' 3 := by
  constructor
  · rintro rfl
    refine ⟨fun field => ?_, ?_⟩
    · cases field with
      | vendor => exact denotes.vendorId.symm.trans denotes'.vendorId
      | product => exact denotes.productId.symm.trans denotes'.productId
      | interface => exact denotes.interface.symm.trans denotes'.interface
    · exact text?_injective (denotes.serialNumber.symm.trans denotes'.serialNumber)
  · rintro ⟨numbers, last⟩
    have vendorId := denotes.vendorId.trans ((numbers .vendor).trans denotes'.vendorId.symm)
    have productId := denotes.productId.trans ((numbers .product).trans denotes'.productId.symm)
    have interface := denotes.interface.trans ((numbers .interface).trans denotes'.interface.symm)
    have serialNumber : s.serialNumber = s'.serialNumber := by
      rw [denotes.serialNumber, denotes'.serialNumber, last]
    obtain ⟨_, _, _, _⟩ := s
    obtain ⟨_, _, _, _⟩ := s'
    cases Option.map_injective (fun _ _ => UInt16.toNat_inj.mp) vendorId
    cases Option.map_injective (fun _ _ => UInt16.toNat_inj.mp) productId
    cases Option.map_injective (fun _ _ => UInt8.toNat_inj.mp) interface
    cases serialNumber
    rfl

/-! ### Texts -/

/-- The addresses that texts stand for. -/
inductive Reading : List Char → Address → Prop
  | any : Reading [] any
  | usb {parts s} : Plain '/' parts → Denotes parts s →
      Reading (Transport.usb.tag.toList ++ joined '/' parts) (usb s)
  | serial {path} : Reading (Transport.serial.tag.toList ++ path) (serial (text? path))
  /-- What bears no tag is a host path as it stands. -/
  | host {text} : text ≠ [] → (∀ t : Transport, ¬t.tag.toList <+: text) →
      Reading text (host (String.ofList text))

theorem Refusal.ne_nil {rest : List Char} {fault : AddressFault} (refusal : Refusal rest fault) :
    rest ≠ [] := by
  rintro rfl
  cases readSelector_of_refusal refusal

theorem parse_of_reading {text : String} {a : Address} (reading : Reading text.toList a) :
    parse text = .ok a := by
  generalize read : text.toList = cs at reading
  cases reading with
  | any =>
      obtain rfl : text = "" := String.toList_injective read
      rfl
  | usb plain denotes => rw [parse_of_usb read, readSelector_of_denotes plain denotes]; rfl
  | serial => rw [parse_of_serial read, nonEmpty?_ofList]
  | host nonempty untagged =>
      subst read
      rw [String.ofList_toList]
      exact parse_of_untagged (fun empty => nonempty (empty ▸ rfl)) untagged

theorem parse_of_refusal {text : String} {rest : List Char} {fault : AddressFault}
    (tagged : text.toList = Transport.usb.tag.toList ++ rest) (refusal : Refusal rest fault) :
    parse text = .error ⟨text, fault⟩ := by
  rw [parse_of_usb tagged, readSelector_of_refusal refusal]
  rfl

theorem denotes_of_parse {text : String} {parts : List (List Char)} {a : Address}
    (plain : Plain '/' parts) (tagged : text.toList = Transport.usb.tag.toList ++ joined '/' parts)
    (read : parse text = .ok a) : ∃ s, a = usb s ∧ Denotes parts s := by
  rw [parse_of_usb tagged] at read
  cases selector : readSelector (joined '/' parts) with
  | error fault =>
      rw [selector] at read
      cases read
  | ok s =>
      rw [selector] at read
      cases read
      obtain ⟨parts', plain', same, denotes⟩ := readSelector_eq_ok_iff.mp selector
      exact ⟨s, rfl, Text.joined_injective plain plain' same ▸ denotes⟩

/-- Every text stands for an address, or is refused for what is behind the tag. -/
theorem refused_or_reading (cs : List Char) :
    (∃ rest fault, cs = Transport.usb.tag.toList ++ rest ∧ Refusal rest fault) ∨
      ∃ a, Reading cs a := by
  by_cases usb : Transport.usb.tag.toList <+: cs
  · obtain ⟨rest, rfl⟩ := usb
    rcases refusal_or_denotes rest with ⟨fault, refusal⟩ | ⟨parts, s, plain, rfl, denotes⟩
    · exact .inl ⟨rest, fault, rfl, refusal⟩
    · exact .inr ⟨_, .usb plain denotes⟩
  · by_cases serial : Transport.serial.tag.toList <+: cs
    · obtain ⟨path, rfl⟩ := serial
      exact .inr ⟨_, .serial⟩
    · by_cases empty : cs = []
      · subst empty
        exact .inr ⟨_, .any⟩
      · refine .inr ⟨_, .host empty fun t => ?_⟩
        cases t with
        | usb => exact usb
        | serial => exact serial

/-- The parser reads the grammar and nothing else. A text is refused exactly if it bears the tag of
USB addresses and what follows is refused; all other texts are read as what they stand for, with the
numbers of their segments as they are written; and two selectors are read alike exactly if their
numbers and serial numbers agree. -/
theorem parse_reads_grammar :
    (∀ text e, parse text = .error e ↔ e.text = text ∧
      ∃ rest, rest ≠ [] ∧ text.toList = Transport.usb.tag.toList ++ rest ∧ Refusal rest e.fault) ∧
    (∀ text a, parse text = .ok a ↔ Reading text.toList a) ∧
    ∀ text text' parts parts' a a', Plain '/' parts → Plain '/' parts' →
      text.toList = Transport.usb.tag.toList ++ joined '/' parts →
      text'.toList = Transport.usb.tag.toList ++ joined '/' parts' →
      parse text = .ok a → parse text' = .ok a' →
      (a = a' ↔
        (∀ field : HexField, number? (segmentAt parts field.index) =
          number? (segmentAt parts' field.index)) ∧
        segmentAt parts 3 = segmentAt parts' 3) := by
  refine ⟨?_, ?_, ?_⟩
  · intro text e
    constructor
    · intro failed
      rcases refused_or_reading text.toList with ⟨rest, fault, tagged, refusal⟩ | ⟨a, reading⟩
      · rw [parse_of_refusal tagged refusal] at failed
        cases failed
        exact ⟨rfl, rest, refusal.ne_nil, tagged, refusal⟩
      · rw [parse_of_reading reading] at failed
        cases failed
    · rintro ⟨rfl, rest, _, tagged, refusal⟩
      exact parse_of_refusal tagged refusal
  · intro text a
    constructor
    · intro read
      rcases refused_or_reading text.toList with ⟨rest, fault, tagged, refusal⟩ | ⟨a', reading⟩
      · rw [parse_of_refusal tagged refusal] at read
        cases read
      · rw [parse_of_reading reading] at read
        cases read
        exact reading
    · exact parse_of_reading
  · intro text text' parts parts' a a' plain plain' tagged tagged' read read'
    obtain ⟨s, rfl, denotes⟩ := denotes_of_parse plain tagged read
    obtain ⟨s', rfl, denotes'⟩ := denotes_of_parse plain' tagged' read'
    rw [usb.injEq]
    exact denotes.eq_iff denotes'

/-- A number is read alike however it is padded and in either case; a sign makes it none, and the
width of a later segment is not looked at. -/
theorem padding_is_read_and_a_sign_refused :
    parse "usb@/1a" = .ok (usb ⟨some 26, none, none, none⟩) ∧
      parse "usb@/001A//" = .ok (usb ⟨some 26, none, none, none⟩) ∧
      number? "1a".toList = number? "001A".toList ∧
      parse "usb@/2e8a/+1/123" = .error ⟨"usb@/2e8a/+1/123", .notHex .product⟩ ∧
      ∃ rest, Transport.usb.tag.toList ++ rest = "usb@/2e8a/+1/123".toList ∧
        Refusal rest (.notHex .product) := by
  have short : parse "usb@/1a" = .ok (usb ⟨some 26, none, none, none⟩) := by decide
  have padded : parse "usb@/001A//" = .ok (usb ⟨some 26, none, none, none⟩) := by decide
  have signed : parse "usb@/2e8a/+1/123" = .error ⟨"usb@/2e8a/+1/123", .notHex .product⟩ := by decide
  have alike := (parse_reads_grammar.2.2 _ _ ["1a".toList] ["001A".toList, [], []] _ _
    (by decide) (by decide) (by decide) (by decide) short padded).mp rfl
  obtain ⟨_, rest, _, tagged, refusal⟩ := (parse_reads_grammar.1 _ _).mp signed
  exact ⟨short, padded, alike.1 .vendor, signed, rest, tagged.symm, refusal⟩

end Address
end DeviceConnect
