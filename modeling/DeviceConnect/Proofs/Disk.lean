import DeviceConnect.Disk.Tree
import Mathlib.Data.List.Basic

/-! What is read of a file tree after it was written to, or after directories were made in it. Only
the places that a path passes through matter, and all of those are directories. -/
namespace DeviceConnect

/-- A write that succeeds is read back, whatever stood there before. -/
def Disk.ReadsBack {φ : Type} (disk : Disk φ) : Prop :=
  ∀ path text files after, disk.write path text files = (.ok (), after) →
    disk.read path after = .ok text.toByteArray

def Disk.contents? {φ : Type} (disk : Disk φ) (path : String) (files : φ) : Option ByteArray :=
  (disk.read path files).toOption

theorem Disk.contents?_eq_some {φ : Type} {disk : Disk φ} {path : String} {files : φ}
    {bytes : ByteArray} :
    disk.contents? path files = some bytes ↔ disk.read path files = .ok bytes := by
  unfold contents?
  cases disk.read path files <;> simp [Except.toOption]

namespace FileTree

variable {tree : FileTree} {spot place target : List String} {entry : FileEntry}

/-! ### Places -/

theorem lookup_filter (keep : List String → Bool) (place : List String)
    (entries : List (List String × FileEntry)) :
    (entries.filter fun (p, _) => keep p).lookup place =
      if keep place then entries.lookup place else none := by
  induction entries with
  | nil => simp
  | cons first rest ih =>
      obtain ⟨p, e⟩ := first
      by_cases same : place = p
      · subst same
        cases kept : keep place <;> simp [kept, ih]
      · have differ : (place == p) = false := beq_eq_false_iff_ne.mpr same
        cases kept : keep p <;> simp [kept, List.lookup_cons, differ, ih]

theorem find?_set_self (named : spot ≠ []) : (tree.set spot entry).find? spot = some entry := by
  rw [find?, if_neg named]
  exact List.lookup_cons_self

theorem find?_set_of_ne (differ : place ≠ spot) (named : place ≠ []) :
    (tree.set spot entry).find? place = if spot <+: place then none else tree.find? place := by
  have other : (place == spot) = false := beq_eq_false_iff_ne.mpr differ
  simp only [find?, if_neg named, set, erase, List.lookup_cons, other,
    lookup_filter fun p => !spot.isPrefixOf p, Bool.not_eq_true', ← Bool.not_eq_true,
    List.isPrefixOf_iff_prefix, ite_not]

theorem find?_set_of_apart (apart : ¬ spot <+: place) :
    (tree.set spot entry).find? place = tree.find? place := by
  by_cases named : place = []
  · simp only [find?, if_pos named]
  · have differ : place ≠ spot := fun same => apart (same ▸ List.prefix_refl _)
    rw [find?_set_of_ne differ named, if_neg apart]

/-! ### Walks -/

/-- Above a place there are only directories. -/
def Rooted (tree : FileTree) (place : List String) : Prop :=
  ∀ q, q <+: place → q ≠ place → tree.find? q = some .directory

theorem rooted_root : Rooted tree [] := fun _ above differ =>
  absurd (List.prefix_nil.mp above) differ

theorem Rooted.directory (rooted : Rooted tree place)
    (here : tree.find? place = some .directory) {q : List String} (above : q <+: place) :
    tree.find? q = some .directory := by
  by_cases same : q = place
  · exact same ▸ here
  · exact rooted q above same

theorem Rooted.concat (rooted : Rooted tree place) (here : tree.find? place = some .directory)
    (name : String) : Rooted tree (place ++ [name]) := by
  intro q above differ
  rcases List.prefix_concat_iff.mp above with same | inside
  · exact absurd same differ
  · exact rooted.directory here inside

theorem Rooted.dropLast (rooted : Rooted tree place)
    (here : tree.find? place = some .directory) : Rooted tree place.dropLast := by
  intro q above _
  have inside : place.dropLast <+: place := List.dropLast_prefix place
  exact rooted.directory here (above.trans inside)

/-- Where a name leads from a place. -/
inductive Step (name : String) (place : List String) : List String → Prop
  | stay : Step name place place
  | up : name = ".." → Step name place place.dropLast
  | down : Step name place (place ++ [name])

theorem Rooted.step (rooted : Rooted tree place) (here : tree.find? place = some .directory)
    {name : String} {next : List String} (step : Step name place next) : Rooted tree next := by
  cases step with
  | stay => exact rooted
  | up _ => exact rooted.dropLast here
  | down => exact rooted.concat here name

theorem step_of_walk {name : String} {rest : List String}
    (led : tree.walk place (name :: rest) = .ok target) :
    tree.find? place = some .directory ∧ ∃ next, Step name place next ∧
      tree.walk next rest = .ok target ∧
      ∀ other : FileTree, other.find? place = some .directory →
        other.walk place (name :: rest) = other.walk next rest := by
  rw [walk] at led
  split at led
  · cases led
  · cases led
  · next here =>
      refine ⟨here, ?_⟩
      split at led
      · cases led
      · next short =>
          split at led
          · next stay =>
              refine ⟨place, .stay, led, fun other there => ?_⟩
              simp only [walk, there, if_neg short, if_pos stay]
          · next move =>
              split at led
              · next up =>
                  refine ⟨place.dropLast, .up up, led, fun other there => ?_⟩
                  simp only [walk, there, if_neg short, if_neg move, if_pos up]
              · next down =>
                  refine ⟨place ++ [name], .down, led, fun other there => ?_⟩
                  simp only [walk, there, if_neg short, if_neg move, if_neg down]

/-- A walk passes through directories only, so what is set elsewhere does not divert it. -/
theorem walk_set {names : List String} (rooted : Rooted tree place)
    (elsewhere : tree.find? spot ≠ some .directory) (entry : FileEntry)
    (led : tree.walk place names = .ok target) :
    (tree.set spot entry).walk place names = .ok target := by
  induction names generalizing place with
  | nil => exact led
  | cons name rest ih =>
      obtain ⟨here, next, step, later, alike⟩ := step_of_walk led
      have apart : ¬ spot <+: place := fun above => elsewhere (rooted.directory here above)
      rw [alike _ ((find?_set_of_apart apart).trans here)]
      exact ih (rooted.step here step) later

theorem rooted_of_walk {names : List String} (rooted : Rooted tree place)
    (led : tree.walk place names = .ok target) : Rooted tree target := by
  induction names generalizing place with
  | nil =>
      cases led
      exact rooted
  | cons name rest ih =>
      obtain ⟨here, next, step, later, _⟩ := step_of_walk led
      exact ih (rooted.step here step) later

theorem prefix_of_walk {names : List String} (plain : ".." ∉ names)
    (led : tree.walk place names = .ok target) : place <+: target := by
  induction names generalizing place with
  | nil =>
      cases led
      exact List.prefix_refl _
  | cons name rest ih =>
      obtain ⟨notUp, plain⟩ := List.ne_and_not_mem_of_not_mem_cons plain
      obtain ⟨_, next, step, later, _⟩ := step_of_walk led
      have below := ih plain later
      cases step with
      | stay => exact below
      | up up => exact absurd up.symm notUp
      | down => exact (List.prefix_append place [name]).trans below

theorem walk_of_set {names : List String} (plain : ".." ∉ names) (apart : ¬ spot <+: target)
    (led : (tree.set spot entry).walk place names = .ok target) :
    tree.walk place names = .ok target := by
  induction names generalizing place with
  | nil => exact led
  | cons name rest ih =>
      have same : (tree.set spot entry).find? place = tree.find? place :=
        find?_set_of_apart fun above => apart (above.trans (prefix_of_walk plain led))
      obtain ⟨here, next, _, later, alike⟩ := step_of_walk led
      rw [alike _ (same ▸ here)]
      exact ih (List.not_mem_of_not_mem_cons plain) later

/-! ### Files -/

theorem walk_of_resolve {path : String} (led : tree.resolve path = .ok target) :
    tree.walk [] (Path.parts path) = .ok target ∧
      ∀ other : FileTree, other.walk [] (Path.parts path) = .ok target →
        other.resolve path = .ok target := by
  unfold resolve follow at led
  split at led
  · cases led
  · next noNul =>
      split at led
      · cases led
      · next named =>
          split at led
          · cases led
          · next short =>
              refine ⟨led, fun other walked => ?_⟩
              rw [resolve, follow, if_neg noNul, if_neg named, if_neg short, walked]

theorem read_eq_ok {path : String} {bytes : ByteArray} (found : tree.read path = .ok bytes) :
    ∃ place, tree.resolve path = .ok place ∧ tree.find? place = some (.file bytes) := by
  unfold read at found
  split at found
  · cases found
  · next place led =>
      split at found
      · cases found
      · cases found
      · next here =>
          cases found
          exact ⟨place, led, here⟩

theorem read_of_resolve {path : String} {bytes : ByteArray} (led : tree.resolve path = .ok place)
    (here : tree.find? place = some (.file bytes)) : tree.read path = .ok bytes := by
  simp only [read, led, here]

end FileTree

theorem treeDisk_readsBack : treeDisk.ReadsBack := by
  intro path text tree after written
  change FileTree.writeBytes path text.toByteArray tree = (.ok (), after) at written
  unfold FileTree.writeBytes at written
  split at written
  · split at written <;> cases written
  · split at written
    · cases written
    · next place led =>
        split at written
        · cases written
        · next elsewhere =>
            cases written
            obtain ⟨walked, resolves⟩ := FileTree.walk_of_resolve led
            have named : place ≠ [] := by
              rintro rfl
              exact elsewhere rfl
            exact FileTree.read_of_resolve
              (resolves _ (FileTree.walk_set FileTree.rooted_root elsewhere _ walked))
              (FileTree.find?_set_self named)

namespace FileTree

variable {tree : FileTree} {spot : List String} {path : String}

theorem read_set_directory {bytes : ByteArray} (absent : tree.find? spot = none)
    (found : tree.read path = .ok bytes) : (tree.set spot .directory).read path = .ok bytes := by
  obtain ⟨place, led, here⟩ := read_eq_ok found
  obtain ⟨walked, resolves⟩ := walk_of_resolve led
  have elsewhere : tree.find? spot ≠ some .directory := by simp [absent]
  have apart : ¬ spot <+: place := by
    intro above
    by_cases same : spot = place
    · rw [same, here] at absent
      cases absent
    · exact elsewhere (rooted_of_walk rooted_root walked spot above same)
  exact read_of_resolve (resolves _ (walk_set rooted_root elsewhere _ walked))
    ((find?_set_of_apart apart).trans here)

/-- A directory made where nothing was uncovers no file, for a path that leads nowhere upwards. -/
theorem read_of_set_directory {bytes : ByteArray} (plain : ".." ∉ Path.parts path)
    (found : (tree.set spot .directory).read path = .ok bytes) : tree.read path = .ok bytes := by
  obtain ⟨place, led, here⟩ := read_eq_ok found
  obtain ⟨walked, resolves⟩ := walk_of_resolve led
  have named : place ≠ [] := by
    rintro rfl
    cases here
  have apart : ¬ spot <+: place := by
    intro above
    by_cases same : place = spot
    · subst same
      rw [find?_set_self named] at here
      cases here
    · rw [find?_set_of_ne same named, if_pos above] at here
      cases here
  exact read_of_resolve ((walk_of_resolve led).2 tree (walk_of_set plain apart walked))
    ((find?_set_of_apart apart).symm.trans here)

theorem contents?_createDir (plain : ".." ∉ Path.parts path) (directory : String)
    (tree : FileTree) :
    treeDisk.contents? path (createDir directory tree).2 = treeDisk.contents? path tree := by
  unfold createDir
  split
  · rfl
  · split
    · rfl
    · next absent =>
        refine Option.ext fun bytes => ?_
        rw [Disk.contents?_eq_some, Disk.contents?_eq_some]
        exact ⟨read_of_set_directory plain, read_set_directory absent⟩

theorem contents?_createChain (plain : ".." ∉ Path.parts path) (chain : List String)
    (tree : FileTree) :
    treeDisk.contents? path (createChain chain tree).2 = treeDisk.contents? path tree := by
  induction chain generalizing tree with
  | nil => rfl
  | cons directory above ih =>
      have made (tree : FileTree) := contents?_createDir plain directory tree
      have first := made tree
      rw [createChain]
      split
      · rfl
      split
      · next same => exact same ▸ first
      · next same =>
          have behind := ih (createDir directory tree).2
          rw [same] at first behind
          split
          · next chained => exact (chained ▸ behind).trans first
          · next between chained =>
              rw [chained] at behind
              have second := made between
              split
              · next again => exact (again ▸ second).trans (behind.trans first)
              · next again =>
                  rw [again] at second
                  split <;> exact second.trans (behind.trans first)
      · next same =>
          rw [same] at first
          split <;> exact first

end FileTree

theorem treeDisk_createDirs {path directory : String} {tree after : FileTree}
    {result : Except FileError Unit} (plain : ".." ∉ Path.parts path)
    (made : treeDisk.createDirs directory tree = (result, after)) :
    treeDisk.contents? path after = treeDisk.contents? path tree := by
  have kept := FileTree.contents?_createChain plain (Path.ancestors directory) tree
  have same : FileTree.createChain (Path.ancestors directory) tree = (result, after) := made
  rwa [same] at kept

theorem treeDisk_write_failed {path text : String} {tree after : FileTree} {e : FileError}
    (failed : treeDisk.write path text tree = (.error e, after)) : after = tree := by
  change FileTree.writeBytes path text.toByteArray tree = (.error e, after) at failed
  unfold FileTree.writeBytes at failed
  split at failed
  · split at failed <;> (cases failed; rfl)
  · split at failed
    · cases failed
      rfl
    · split at failed <;> cases failed
      rfl

end DeviceConnect
