import DeviceConnect.Proofs.Disk
import DeviceConnect.Proofs.Json.Parsed
import DeviceConnect.Proofs.Json.RoundTrip
import DeviceConnect.Settings

/-! A document without doubles is the one that is loaded again once it is saved. -/
namespace DeviceConnect

namespace Settings

variable {φ : Type} {disk : Disk φ} {path : String} {files after : φ} {s : Settings}

/-- A document whose text restores it: shaped as one that was read, and without doubles. -/
structure Restorable (s : Settings) : Prop where
  fits : Json.Fits Json.maxDepth (.obj s.root)
  whole : Json.Whole (.obj s.root)

theorem fits_of_ofBytes {bytes : ByteArray} (opened : ofBytes path bytes = .ok s) :
    s.path = path ∧ Json.Fits Json.maxDepth (.obj s.root) := by
  unfold ofBytes at opened
  split at opened
  · cases opened
  · split at opened
    · cases opened
      exact ⟨rfl, Json.fits_empty⟩
    · split at opened
      · cases opened
      · next parsed =>
          cases opened
          exact ⟨rfl, Json.parse_fits parsed⟩
      · cases opened

theorem fits_of_load (loaded : load disk path files = .ok s) :
    s.path = path ∧ Json.Fits Json.maxDepth (.obj s.root) := by
  unfold load at loaded
  split at loaded
  · cases loaded
    exact ⟨rfl, Json.fits_empty⟩
  · cases loaded
  · exact fits_of_ofBytes loaded

theorem fromUTF8?_toByteArray (text : String) : String.fromUTF8? text.toByteArray = some text := by
  rw [String.fromUTF8?]
  exact dif_pos text.isValidUTF8

theorem text_not_blank (s : Settings) : Text.isBlank s.text = false := by
  have brace : ∃ more, s.text.toList = '\x7b' :: more := by
    unfold text Json.pretty
    cases s.root <;> simp [Json.write]
  obtain ⟨more, head⟩ := brace
  rw [Text.isBlank, head, List.all_cons]
  rfl

theorem Restorable.ofBytes_text (restorable : s.Restorable) :
    ofBytes s.path s.text.toByteArray = .ok s := by
  have parsed : Json.parse s.text = .ok (.obj s.root) :=
    Json.parse_pretty restorable.fits restorable.whole
  simp only [ofBytes, fromUTF8?_toByteArray, text_not_blank, parsed]
  rfl

theorem Restorable.load_of_contents? (restorable : s.Restorable)
    (holds : disk.contents? s.path files = some s.text.toByteArray) :
    load disk s.path files = .ok s := by
  simp only [load, Disk.contents?_eq_some.mp holds, restorable.ofBytes_text]

theorem Restorable.set (restorable : s.Restorable) (key : String) {json : Json}
    (fits : Json.Fits (Json.maxDepth - 1) json) (whole : Json.Whole json) :
    (s.set key json).Restorable := by
  obtain ⟨ascending, others⟩ := restorable.fits.of_obj
  refine ⟨.obj (Json.Members.ascending_insert ascending _ _) fun m member => ?_,
    .obj fun m member => ?_⟩
  · rcases Json.Members.mem_insert member with rfl | old
    · exact fits
    · exact others m old
  · rcases Json.Members.mem_insert member with rfl | old
    · exact whole
    · exact restorable.whole.of_obj m old

theorem Restorable.set_blacklist (restorable : s.Restorable) (entries : List String) :
    (s.set blacklistKey (.arr (entries.map .str))).Restorable :=
  restorable.set blacklistKey (Json.fits_strings entries) (Json.whole_strings entries)

theorem ofBytes_path {bytes : ByteArray} (opened : ofBytes path bytes = .ok s) (path' : String) :
    ofBytes path' bytes = .ok ⟨path', s.root⟩ := by
  unfold ofBytes at opened ⊢
  split at opened
  · cases opened
  · split at opened
    · next blank =>
        cases opened
        exact if_pos blank
    · next visible =>
        rw [if_neg visible]
        split at opened
        · cases opened
        · cases opened
          rfl
        · cases opened

theorem load_of_same {path' : String} (same : disk.contents? path' after = disk.contents? path files)
    (loaded : load disk path' after = .ok s) :
    s.root = [] ∨ load disk path files = .ok ⟨path, s.root⟩ := by
  unfold load at loaded
  split at loaded
  · cases loaded
    exact .inl rfl
  · cases loaded
  · next bytes found =>
      have there := Disk.contents?_eq_some.mp (same.symm.trans (Disk.contents?_eq_some.mpr found))
      refine .inr ?_
      simp only [load, there]
      exact ofBytes_path loaded path

/-! ### Saving -/

/-- The ways a save can go: up to the text it either fails or has made the directories above. -/
inductive Saves (disk : Disk φ) (s : Settings) (files : φ) : Except SettingsError Unit × φ → Prop
  | blocked {directory e after} : disk.createDirs directory files = (.error e, after) →
      Saves disk s files (.error (.io directory e), after)
  | refused {between e after} : (between = files ∨
        ∃ directory, disk.createDirs directory files = (.ok (), between)) →
      disk.write s.path s.text between = (.error e, after) →
      Saves disk s files (.error (.io s.path e), after)
  | written {between after} : disk.write s.path s.text between = (.ok (), after) →
      Saves disk s files (.ok (), after)

theorem save_saves (disk : Disk φ) (s : Settings) (files : φ) :
    Saves disk s files (s.save disk files) := by
  unfold save
  extract_lets write
  have reached {between : φ} (way : between = files ∨
      ∃ directory, disk.createDirs directory files = (.ok (), between)) :
      Saves disk s files (write between) := by
    dsimp only [write]
    split
    · next wrote => exact .written wrote
    · next failed => exact .refused way failed
  split
  · exact reached (.inl rfl)
  · split
    · next failed => exact .blocked failed
    · next made => exact reached (.inr ⟨_, made⟩)

theorem contents?_of_save (readsBack : disk.ReadsBack)
    (saved : s.save disk files = (.ok (), after)) :
    disk.contents? s.path after = some s.text.toByteArray := by
  have saves := save_saves disk s files
  rw [saved] at saves
  cases saves with
  | written wrote => exact Disk.contents?_eq_some.mpr (readsBack _ _ _ _ wrote)

/-- A saved document without doubles is opened with the root it was saved with exactly if that nests
at most as deep as is read, with integers that are kept as such; saved again, it leaves the same bytes. -/
theorem saved_document_is_restored_iff (readsBack : disk.ReadsBack)
    (whole : Json.Whole (.obj s.root)) (saved : s.save disk files = (.ok (), after)) :
    Json.Fits Json.maxDepth (.obj s.root) ↔
      ∃ reopened, load disk s.path after = .ok reopened ∧ reopened.root = s.root ∧
        reopened.text = s.text ∧
        ∀ met left, reopened.save disk met = (.ok (), left) →
          disk.contents? s.path left = disk.contents? s.path after := by
  have holds := contents?_of_save readsBack saved
  constructor
  · intro fits
    have restorable : s.Restorable := ⟨fits, whole⟩
    refine ⟨s, restorable.load_of_contents? holds, rfl, rfl, fun met left again => ?_⟩
    exact (contents?_of_save readsBack again).trans holds.symm
  · rintro ⟨reopened, opened, same, _⟩
    exact same ▸ (fits_of_load opened).2

/-- Brackets as deep as is read, around the least and the greatest integer; and one pair more. -/
theorem deepest_document_is_restored :
    let document (depth : Nat) : Settings := ⟨"./.tether/settings.json",
      [("\x01\"\\", .str "é\n"),
        ("deep", Json.bracketed depth (.arr [.int Json.minInt, .int Json.maxInt]))]⟩
    let saved (depth : Nat) : Except SettingsError Unit × FileTree :=
      (document depth).save treeDisk .empty
    (∀ depth, Json.Whole (.obj (document depth).root)) ∧
      (saved 125).1 = .ok () ∧ (saved 126).1 = .ok () ∧
      (∃ reopened, load treeDisk "./.tether/settings.json" (saved 125).2 = .ok reopened ∧
        reopened.root = (document 125).root) ∧
      ¬∃ reopened, load treeDisk "./.tether/settings.json" (saved 126).2 = .ok reopened ∧
        reopened.root = (document 126).root := by
  intro document saved
  have whole (depth : Nat) : Json.Whole (.obj (document depth).root) := by
    refine .obj (List.forall_mem_cons.mpr ⟨.str _, List.forall_mem_singleton.mpr ?_⟩)
    exact Json.whole_bracketed (.arr (by simp [Json.Whole.int]))
  have written : (saved 125).1 = .ok () := by decide +kernel
  refine ⟨whole, written, by decide +kernel, ?_, ?_⟩
  · have numbers : Json.Fits 1 (.arr [.int Json.minInt, .int Json.maxInt]) := by
      refine .arr (List.forall_mem_cons.mpr ⟨.int (by decide) (by decide), ?_⟩)
      exact List.forall_mem_singleton.mpr (.int (by decide) (by decide))
    have deep : Json.Fits (1 + 125) (.bracketed 125 _) := Json.fits_bracketed_iff.mpr numbers
    have fits : Json.Fits Json.maxDepth (.obj (document 125).root) :=
      .obj (by decide +kernel) (List.forall_mem_cons.mpr ⟨.str _, List.forall_mem_singleton.mpr deep⟩)
    obtain ⟨reopened, opened, same, _⟩ := (saved_document_is_restored_iff treeDisk_readsBack
      (whole 125) (Prod.ext written rfl)).mp fits
    exact ⟨reopened, opened, same⟩
  · rintro ⟨reopened, opened, same⟩
    have fits := (fits_of_load opened).2
    rw [same] at fits
    have deep : Json.Fits (0 + 126) (.bracketed 126 _) :=
      fits.of_obj.2 _ (List.mem_cons_of_mem _ List.mem_cons_self)
    cases Json.fits_bracketed_iff.mp deep

end Settings

/-- A save writes the whole text or leaves the file as it was; where it succeeds it wrote the text. -/
structure Disk.SavesWhole {φ : Type} (disk : Disk φ) (path : String) : Prop where
  saved : ∀ (s : Settings) files after, s.path = path → s.save disk files = (.ok (), after) →
    disk.contents? path after = some s.text.toByteArray
  failed : ∀ (s : Settings) files after e, s.path = path → s.save disk files = (.error e, after) →
    disk.contents? path after = disk.contents? path files ∨
      disk.contents? path after = some s.text.toByteArray

theorem treeDisk_savesWhole {path : String} (plain : ".." ∉ Path.parts path) :
    treeDisk.SavesWhole path where
  saved s files after same saved := by
    subst same
    exact Settings.contents?_of_save treeDisk_readsBack saved
  failed s files after e same failed := by
    subst same
    have saves := Settings.save_saves treeDisk s files
    rw [failed] at saves
    refine .inl ?_
    cases saves with
    | blocked stopped => exact treeDisk_createDirs plain stopped
    | refused way refused =>
        rw [treeDisk_write_failed refused]
        rcases way with rfl | ⟨directory, made⟩
        · rfl
        · exact treeDisk_createDirs plain made

end DeviceConnect
