import DeviceConnect.Address.Basic

/-! Which specification selects all that another one does. It asks for no transport and no field that
the other does not name; a wildcard of the other is always met by a candidate that tells them apart.
Host addresses stand outside: they select nothing, and nothing selects them. -/
namespace DeviceConnect

/-! ### Fields -/

section
variable {α : Type}

/-- A wanted field asks for no value but the one that is given. -/
def FieldCovers (want given : Option α) : Prop := ∀ value ∈ want, value ∈ given

theorem FieldCovers.refl (field : Option α) : FieldCovers field field := fun _ member => member

theorem FieldCovers.trans {a b c : Option α} (first : FieldCovers a b) (second : FieldCovers b c) :
    FieldCovers a c := fun value member => second value (first value member)

theorem FieldCovers.antisymm {a b : Option α} (first : FieldCovers a b) (second : FieldCovers b a) :
    a = b := Option.ext fun value => ⟨first value, second value⟩

theorem FieldCovers.wildcard (given : Option α) : FieldCovers none given := nofun

theorem FieldCovers.exists_apart {x y : α} (differ : x ≠ y) (want given : Option α) :
    ∃ value, FieldCovers given (some value) ∧
      (FieldCovers want (some value) → FieldCovers want given) := by
  cases given with
  | some value => exact ⟨value, .refl _, id⟩
  | none =>
      cases want with
      | none => exact ⟨x, .wildcard _, fun _ => .wildcard _⟩
      | some wanted =>
          obtain ⟨value, other⟩ : ∃ value, value ≠ wanted := by
            by_cases same : x = wanted
            · exact ⟨y, same ▸ differ.symm⟩
            · exact ⟨x, same⟩
          refine ⟨value, .wildcard _, fun covers => ?_⟩
          exact absurd (Option.some.inj (covers wanted rfl)) other

theorem fieldMatches_iff [DecidableEq α] (want found : Option α) :
    fieldMatches want found = true ↔ FieldCovers want found := by
  cases want with
  | none => exact iff_of_true rfl (.wildcard found)
  | some value =>
      rw [fieldMatches, decide_eq_true_iff]
      constructor
      · rintro rfl
        exact .refl _
      · exact fun covers => covers value rfl

end

/-! ### Addresses -/

/-- Every concrete field of the one is concrete, with the same value, in the other. -/
structure UsbSelector.Covers (a b : UsbSelector) : Prop where
  vendorId : FieldCovers a.vendorId b.vendorId
  productId : FieldCovers a.productId b.productId
  interface : FieldCovers a.interface b.interface
  serialNumber : FieldCovers a.serialNumber b.serialNumber

theorem UsbSelector.selects_iff (s candidate : UsbSelector) :
    s.selects candidate = true ↔ s.Covers candidate := by
  simp only [selects, Bool.and_eq_true, fieldMatches_iff]
  constructor
  · rintro ⟨⟨⟨vendorId, productId⟩, interface⟩, serialNumber⟩
    exact ⟨vendorId, productId, interface, serialNumber⟩
  · rintro ⟨vendorId, productId, interface, serialNumber⟩
    exact ⟨⟨⟨vendorId, productId⟩, interface⟩, serialNumber⟩

/-- The wildcards of `b` can be filled so that `a` selects the result only if it covers `b`. -/
theorem UsbSelector.exists_apart (a b : UsbSelector) :
    ∃ c : UsbSelector, c.isFull = true ∧ b.Covers c ∧ (a.Covers c → a.Covers b) := by
  have words : (0 : UInt16) ≠ 1 := by decide
  have bytes : (0 : UInt8) ≠ 1 := by decide
  have texts : "" ≠ "0" := by decide
  obtain ⟨vendorId, vendorId', vendorId''⟩ := FieldCovers.exists_apart words a.vendorId b.vendorId
  obtain ⟨productId, productId', productId''⟩ :=
    FieldCovers.exists_apart words a.productId b.productId
  obtain ⟨interface, interface', interface''⟩ :=
    FieldCovers.exists_apart bytes a.interface b.interface
  obtain ⟨serialNumber, serialNumber', serialNumber''⟩ :=
    FieldCovers.exists_apart texts a.serialNumber b.serialNumber
  refine ⟨⟨some vendorId, some productId, some interface, some serialNumber⟩, rfl, ?_, ?_⟩
  · exact ⟨vendorId', productId', interface', serialNumber'⟩
  · intro covers
    exact ⟨vendorId'' covers.vendorId, productId'' covers.productId, interface'' covers.interface,
      serialNumber'' covers.serialNumber⟩

namespace Address

/-- The specification leaves all open, or asks for the same transport and for no field that the
other does not name alike. -/
inductive Covers : Address → Address → Prop
  | any {b} : Covers any b
  | usb {a b} : a.Covers b → Covers (usb a) (usb b)
  | serial {a b} : FieldCovers a b → Covers (serial a) (serial b)

theorem covers_usb_iff {a b : UsbSelector} : Covers (usb a) (usb b) ↔ a.Covers b := by
  constructor
  · rintro ⟨⟩
    assumption
  · exact .usb

theorem covers_serial_iff {a b : Option String} : Covers (serial a) (serial b) ↔ FieldCovers a b := by
  constructor
  · rintro ⟨⟩
    assumption
  · exact .serial

/-- What can be selected: an address of one device that a listing can show. -/
def IsCandidate (a : Address) : Prop := a.isFull = true ∧ a.isHost = false

theorem selects_iff (spec candidate : Address) :
    spec.selects candidate = true ↔ candidate.IsCandidate ∧ spec.Covers candidate := by
  simp only [selects, Bool.and_eq_true, Bool.not_eq_true', IsCandidate]
  refine and_congr_right fun candidacy => ?_
  cases spec with
  | any => exact iff_of_true rfl .any
  | usb want =>
      cases candidate with
      | usb found => exact (want.selects_iff found).trans covers_usb_iff.symm
      | _ => exact ⟨nofun, nofun⟩
  | serial want =>
      cases candidate with
      | serial found => exact (fieldMatches_iff want found).trans covers_serial_iff.symm
      | _ => exact ⟨nofun, nofun⟩
  | host path =>
      cases candidate <;> exact ⟨nofun, nofun⟩

theorem Covers.refl {a : Address} (listed : a.isHost = false) : Covers a a := by
  cases a with
  | any => exact .any
  | usb s => exact .usb ⟨.refl _, .refl _, .refl _, .refl _⟩
  | serial path => exact .serial (.refl _)
  | host path => cases listed

theorem Covers.trans {a b c : Address} (first : Covers a b) (second : Covers b c) : Covers a c := by
  cases first with
  | any => exact .any
  | usb first =>
      cases second with
      | usb second =>
          exact .usb ⟨first.vendorId.trans second.vendorId, first.productId.trans second.productId,
            first.interface.trans second.interface, first.serialNumber.trans second.serialNumber⟩
  | serial first =>
      cases second with
      | serial second => exact .serial (first.trans second)

theorem Covers.antisymm {a b : Address} (first : Covers a b) (second : Covers b a) : a = b := by
  cases first with
  | any =>
      cases second with
      | any => rfl
  | @usb a b first =>
      cases second with
      | usb second =>
          obtain ⟨_, _, _, _⟩ := a
          obtain ⟨_, _, _, _⟩ := b
          cases first.vendorId.antisymm second.vendorId
          cases first.productId.antisymm second.productId
          cases first.interface.antisymm second.interface
          cases first.serialNumber.antisymm second.serialNumber
          rfl
  | serial first =>
      cases second with
      | serial second => exact congrArg Address.serial (first.antisymm second)

theorem Covers.eq_of_full {a c : Address} (full : a.isFull = true) (covers : Covers a c) : c = a := by
  have filled {α : Type} {want given : Option α} (concrete : want.isSome = true)
      (field : FieldCovers want given) : given = want := by
    obtain ⟨value, rfl⟩ := Option.isSome_iff_exists.mp concrete
    exact field value rfl
  cases covers with
  | any => cases full
  | @usb a c covers =>
      simp only [isFull, UsbSelector.isFull, Bool.and_eq_true] at full
      obtain ⟨⟨⟨vendorId, productId⟩, interface⟩, serialNumber⟩ := full
      obtain ⟨_, _, _, _⟩ := a
      obtain ⟨_, _, _, _⟩ := c
      cases filled vendorId covers.vendorId
      cases filled productId covers.productId
      cases filled interface covers.interface
      cases filled serialNumber covers.serialNumber
      rfl
  | serial covers => exact congrArg Address.serial (filled full covers)

theorem exists_apart (a : Address) {b : Address} (listed : b.isHost = false) :
    ∃ c : Address, c.IsCandidate ∧ Covers b c ∧ (Covers a c → Covers a b) := by
  cases b with
  | any =>
      cases a with
      | any => exact ⟨serial (some ""), ⟨rfl, rfl⟩, .any, fun _ => .any⟩
      | usb s => exact ⟨serial (some ""), ⟨rfl, rfl⟩, .any, nofun⟩
      | serial path => exact ⟨usb ⟨some 0, some 0, some 0, some ""⟩, ⟨rfl, rfl⟩, .any, nofun⟩
      | host path => exact ⟨serial (some ""), ⟨rfl, rfl⟩, .any, nofun⟩
  | usb given =>
      cases a with
      | usb want =>
          obtain ⟨c, full, selected, apart⟩ := want.exists_apart given
          refine ⟨usb c, ⟨full, rfl⟩, .usb selected, fun covers => ?_⟩
          exact .usb (apart (covers_usb_iff.mp covers))
      | any =>
          obtain ⟨c, full, selected, _⟩ := given.exists_apart given
          exact ⟨usb c, ⟨full, rfl⟩, .usb selected, fun _ => .any⟩
      | _ =>
          obtain ⟨c, full, selected, _⟩ := given.exists_apart given
          exact ⟨usb c, ⟨full, rfl⟩, .usb selected, nofun⟩
  | serial given =>
      have differ : "" ≠ "0" := by decide
      cases a with
      | serial want =>
          obtain ⟨c, selected, apart⟩ := FieldCovers.exists_apart differ want given
          refine ⟨serial (some c), ⟨rfl, rfl⟩, .serial selected, fun covers => ?_⟩
          exact .serial (apart (covers_serial_iff.mp covers))
      | any =>
          obtain ⟨c, selected, _⟩ := FieldCovers.exists_apart differ given given
          exact ⟨serial (some c), ⟨rfl, rfl⟩, .serial selected, fun _ => .any⟩
      | _ =>
          obtain ⟨c, selected, _⟩ := FieldCovers.exists_apart differ given given
          exact ⟨serial (some c), ⟨rfl, rfl⟩, .serial selected, nofun⟩
  | host path => cases listed

/-- A field of an address that can be left open. -/
inductive Field where
  | vendorId
  | productId
  | interface
  | serialNumber
  | path

/-- The same address with one field left open, if it has that field. -/
def leaveOpen : Field → Address → Address
  | .vendorId, usb s => usb { s with vendorId := none }
  | .productId, usb s => usb { s with productId := none }
  | .interface, usb s => usb { s with interface := none }
  | .serialNumber, usb s => usb { s with serialNumber := none }
  | .path, serial _ => serial none
  | _, a => a

theorem leaveOpen_covers (field : Field) {a : Address} (listed : a.isHost = false) :
    Covers (a.leaveOpen field) a := by
  cases a with
  | any => cases field <;> exact .any
  | usb s =>
      cases field with
      | vendorId => exact .usb ⟨.wildcard _, .refl _, .refl _, .refl _⟩
      | productId => exact .usb ⟨.refl _, .wildcard _, .refl _, .refl _⟩
      | interface => exact .usb ⟨.refl _, .refl _, .wildcard _, .refl _⟩
      | serialNumber => exact .usb ⟨.refl _, .refl _, .refl _, .wildcard _⟩
      | path => exact .refl rfl
  | serial path =>
      cases field with
      | path => exact .serial (.wildcard _)
      | _ => exact .refl rfl
  | host path => cases listed

theorem selects_of_covers {a b c : Address} (covers : Covers a b) (selected : b.selects c = true) :
    a.selects c = true := by
  obtain ⟨candidacy, selected⟩ := (selects_iff b c).mp selected
  exact (selects_iff a c).mpr ⟨candidacy, covers.trans selected⟩

theorem covers_of_selects {a b : Address} (listed : b.isHost = false)
    (wider : ∀ c, b.selects c = true → a.selects c = true) : Covers a b := by
  obtain ⟨c, candidacy, selected, apart⟩ := exists_apart a listed
  have both := wider c ((selects_iff b c).mpr ⟨candidacy, selected⟩)
  exact apart ((selects_iff a c).mp both).2

theorem isHost_of_selects {spec c : Address} (selected : spec.selects c = true) :
    spec.isHost = false := by
  obtain ⟨_, covers⟩ := (selects_iff spec c).mp selected
  cases covers with
  | any => rfl
  | usb _ => rfl
  | serial _ => rfl

theorem selects_iff_eq_of_full {a : Address} (candidacy : a.IsCandidate) (c : Address) :
    a.selects c = true ↔ c = a := by
  constructor
  · intro selected
    exact ((selects_iff a c).mp selected).2.eq_of_full candidacy.1
  · rintro rfl
    exact (selects_iff c c).mpr ⟨candidacy, .refl candidacy.2⟩

/-- One specification selects all that another selects exactly if it covers it. So no two select the
same, a full one selects itself alone, and leaving a field open loses nothing; host addresses select
nothing, and only full addresses of devices are selected. -/
theorem selects_all_iff_covers :
    (∀ a b : Address, a.isHost = false → b.isHost = false →
      ((∀ c, b.selects c = true → a.selects c = true) ↔ Covers a b)) ∧
    (∀ a b : Address, a.isHost = false → b.isHost = false →
      (∀ c, a.selects c = b.selects c) → a = b) ∧
    (∀ a : Address, a.isFull = true → a.isHost = false → ∀ c, a.selects c = true ↔ c = a) ∧
    (∀ (a : Address) (field : Field) (c : Address),
      a.selects c = true → (a.leaveOpen field).selects c = true) ∧
    (∀ path c, (host path).selects c = false) ∧
    (∀ spec c : Address, c.isPartial = true ∨ c = any ∨ c.isHost = true → spec.selects c = false) := by
  refine ⟨?_, ?_, ?_, ?_, ?_, ?_⟩
  · intro a b _ listed
    exact ⟨covers_of_selects listed, fun covers c => selects_of_covers covers⟩
  · intro a b listed listed' same
    have first := covers_of_selects listed' fun c selected => (same c).trans selected
    have second := covers_of_selects listed fun c selected => (same c).symm.trans selected
    exact first.antisymm second
  · intro a full listed
    exact selects_iff_eq_of_full ⟨full, listed⟩
  · intro a field c selected
    exact selects_of_covers (leaveOpen_covers field (isHost_of_selects selected)) selected
  · intro path c
    refine Bool.eq_false_iff.mpr fun selected => ?_
    cases isHost_of_selects selected
  · intro spec c other
    refine Bool.eq_false_iff.mpr fun selected => ?_
    obtain ⟨full, listed⟩ := ((selects_iff spec c).mp selected).1
    rcases other with open_ | rfl | host
    · rw [isPartial, full] at open_
      cases open_
    · cases full
    · rw [listed] at host
      cases host

/-- A vendor's devices are more than those of its first interface, and the same specification written
with the interface left open selects them all. -/
theorem vendor_covers_its_interface :
    let vendor : Address := usb ⟨some 0x20a0, none, none, none⟩
    let first : Address := usb ⟨some 0x20a0, none, some 1, none⟩
    vendor.isHost = false ∧ first.isHost = false ∧ first.leaveOpen .interface = vendor ∧
      (∀ c, first.selects c = true → vendor.selects c = true) ∧
      ¬∀ c, vendor.selects c = true → first.selects c = true := by
  intro vendor first
  refine ⟨rfl, rfl, rfl, ?_, ?_⟩
  · exact fun c => selects_all_iff_covers.2.2.2.1 first .interface c
  · intro wider
    have covers := (selects_all_iff_covers.1 first vendor rfl rfl).mp wider
    cases (covers_usb_iff.mp covers).interface 1 rfl

end Address
end DeviceConnect
