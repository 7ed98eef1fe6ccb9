import DeviceConnect.CommandLine.Parser
import Mathlib.Data.List.Nodup
import Mathlib.Data.List.Perm.Basic
import Mathlib.Data.List.TakeWhile

/-! Where the options of a command line may stand. What an option gives is found out alone, and what
several give is put together in any order; a level that has read its options holds what they give
together, and the levels of a command line hold together what all of them give. -/
namespace DeviceConnect

/-! ### What is given -/

namespace Given

/-- An option is not among those given. -/
def Lacks (g : Given) : OptionKind → Prop
  | .field .device => g.device = none
  | .field .retries => g.retries = none
  | .field .delayMs => g.delayMs = none
  | .field .wait => g.waitSecs = none
  | .field .workspace => g.workspace = none
  | .field .transport => g.transport = none
  | .switch .legacy => g.legacy = false
  | .switch .verbose => g.verbosity = 0
  | .switch .quarantine => g.quarantine = false
  | .switch .help => True

theorem nothing_lacks (kind : OptionKind) : nothing.Lacks kind := by
  cases kind with
  | field field =>
    cases field with
    | device | retries | delayMs | wait | workspace | transport => rfl
  | switch switch =>
    cases switch with
    | legacy | verbose | quarantine => rfl
    | help => trivial

theorem nothing_under (g : Given) : nothing.under g = g := by
  cases g
  simp only [under, nothing, Option.or_none, Bool.or_false, mk.injEq, true_and, and_true]
  split <;> omega

theorem under_nothing (g : Given) : g.under nothing = g := by
  simp only [under, nothing, Option.none_or, Bool.false_or, if_true]

theorem under_assoc (f g h : Given) : (f.under g).under h = f.under (g.under h) := by
  simp only [under, Option.or_assoc, Bool.or_assoc, mk.injEq, true_and, and_true]
  split <;> simp [*]

theorem or_comm_of_none {α : Type} {a b : Option α} (apart : a = none ∨ b = none) :
    a.or b = b.or a := by
  rcases apart with rfl | rfl <;> simp

/-- Where no option is given on both sides, it does not matter which side is the outer one. -/
theorem under_comm {g h : Given} (apart : ∀ kind, g.Lacks kind ∨ h.Lacks kind) :
    g.under h = h.under g := by
  have quiet : g.verbosity = 0 ∨ h.verbosity = 0 := apart (.switch .verbose)
  simp only [under, mk.injEq, or_comm_of_none (apart (.field .device)),
    or_comm_of_none (apart (.field .retries)), or_comm_of_none (apart (.field .delayMs)),
    or_comm_of_none (apart (.field .wait)), or_comm_of_none (apart (.field .workspace)),
    or_comm_of_none (apart (.field .transport)), Bool.or_comm h.legacy, Bool.or_comm h.quarantine,
    true_and, and_true]
  split <;> split <;> omega

theorem Lacks.under {g h : Given} {kind : OptionKind} (outer : g.Lacks kind) (inner : h.Lacks kind) :
    (g.under h).Lacks kind := by
  cases kind with
  | field field =>
    cases field with
    | device | retries | delayMs | wait | workspace | transport =>
      exact Option.or_eq_none_iff.mpr ⟨inner, outer⟩
  | switch switch =>
    cases switch with
    | legacy | quarantine => exact Bool.or_eq_false_iff.mpr ⟨inner, outer⟩
    | verbose => exact (if_pos inner).trans outer
    | help => trivial

theorem exists_of_map {α : Type} {x : Except Rejection α} {f : α → Given} {g : Given}
    (mapped : x.map f = .ok g) : ∃ value, f value = g := by
  cases x with
  | error fault => cases mapped
  | ok value => exact ⟨value, Except.ok.inj mapped⟩

theorem fill_map_under {α : Type} {place : Option α} (empty : place = none)
    (value : Except Rejection α) {g : Given} {set setAlone : Option α → Given}
    (alike : ∀ v, set (some v) = g.under (setAlone (some v))) :
    (fill place value).map set = ((fill none value).map setAlone).map g.under := by
  rw [empty]
  cases value with
  | error fault => rfl
  | ok v => exact congrArg Except.ok (alike v)

/-- More output is asked for so many times. -/
def louder (times : Nat) (g : Given) : Given :=
  { g with verbosity := min (g.verbosity + times) maxVerbosity }

theorem louder_louder (g : Given) (times more : Nat) :
    (g.louder times).louder more = g.louder (times + more) := by
  simp only [louder, mk.injEq, true_and, and_true]
  omega

theorem put_of_lacks {g : Given} {field : Field} (lacks : g.Lacks (.field field)) (text : String) :
    g.put field text = (nothing.put field text).map g.under := by
  cases field with
  | device | retries | delayMs | wait | workspace | transport =>
    rw [put, put]
    refine fill_map_under lacks _ fun v => ?_
    simp [nothing, under]

theorem turnOn_of_lacks {g : Given} {switch : Switch} (lacks : g.Lacks (.switch switch)) :
    g.turnOn switch = (nothing.turnOn switch).map g.under := by
  cases switch with
  | legacy =>
    have off : g.legacy = false := lacks
    simp [turnOn, off, nothing, under, Except.map]
  | verbose =>
    have quiet : g.verbosity = 0 := lacks
    simp [turnOn, quiet, nothing, under, Except.map, maxVerbosity]
  | quarantine =>
    have off : g.quarantine = false := lacks
    simp [turnOn, off, nothing, under, Except.map]
  | help => rfl

theorem lacks_louder {g : Given} {kind : OptionKind} (other : kind ≠ .switch .verbose)
    (lacks : g.Lacks kind) (times : Nat) : (g.louder times).Lacks kind := by
  cases kind with
  | field field =>
    cases field with
    | device | retries | delayMs | wait | workspace | transport => exact lacks
  | switch switch =>
    cases switch with
    | verbose => exact absurd rfl other
    | legacy | quarantine | help => exact lacks

section
variable {g g' : Given} {field : Field} {text : String} (put : g.put field text = .ok g')
include put

theorem switches_of_put :
    g'.legacy = g.legacy ∧ g'.verbosity = g.verbosity ∧ g'.quarantine = g.quarantine := by
  cases field with
  | device | retries | delayMs | wait | workspace | transport =>
    obtain ⟨value, rfl⟩ := exists_of_map put
    exact ⟨rfl, rfl, rfl⟩

theorem lacks_of_put {kind : OptionKind} (other : kind ≠ .field field) (lacks : g.Lacks kind) :
    g'.Lacks kind := by
  cases kind with
  | switch switch =>
    obtain ⟨legacy, verbosity, quarantine⟩ := switches_of_put put
    cases switch with
    | legacy => exact legacy.trans lacks
    | verbose => exact verbosity.trans lacks
    | quarantine => exact quarantine.trans lacks
    | help => trivial
  | field kept =>
    cases field with
    | device =>
      obtain ⟨value, rfl⟩ := exists_of_map put
      cases kept with
      | device => exact absurd rfl other
      | retries | delayMs | wait | workspace | transport => exact lacks
    | retries =>
      obtain ⟨value, rfl⟩ := exists_of_map put
      cases kept with
      | retries => exact absurd rfl other
      | device | delayMs | wait | workspace | transport => exact lacks
    | delayMs =>
      obtain ⟨value, rfl⟩ := exists_of_map put
      cases kept with
      | delayMs => exact absurd rfl other
      | device | retries | wait | workspace | transport => exact lacks
    | wait =>
      obtain ⟨value, rfl⟩ := exists_of_map put
      cases kept with
      | wait => exact absurd rfl other
      | device | retries | delayMs | workspace | transport => exact lacks
    | workspace =>
      obtain ⟨value, rfl⟩ := exists_of_map put
      cases kept with
      | workspace => exact absurd rfl other
      | device | retries | delayMs | wait | transport => exact lacks
    | transport =>
      obtain ⟨value, rfl⟩ := exists_of_map put
      cases kept with
      | transport => exact absurd rfl other
      | device | retries | delayMs | wait | workspace => exact lacks

end
end Given

/-- An option as it is given: a field with its value, a switch, or the verbose switch by its letter and
as many more in the same word. -/
inductive Choice where
  | value (field : Field) (text : String)
  | switch (which : Switch)
  | louder (more : Nat)
  deriving DecidableEq

namespace Choice

def kind : Choice → OptionKind
  | value field _ => .field field
  | switch which => .switch which
  | louder _ => .switch .verbose

def take : Choice → Given → Except Rejection Given
  | value field text, g => g.put field text
  | switch which, g => g.turnOn which
  | louder more, g => .ok (g.louder (more + 1))

/-- The option may be given: a value is one that its field can have, and help is not asked for. -/
def Valid (c : Choice) : Prop := ∃ g, c.take .nothing = .ok g

def alone (c : Choice) : Given := (c.take .nothing).toOption.getD .nothing

theorem take_of_lacks {c : Choice} (valid : c.Valid) {g : Given} (lacks : g.Lacks c.kind) :
    c.take g = .ok (g.under c.alone) := by
  have apart : c.take g = (c.take .nothing).map g.under := by
    cases c with
    | value field text => exact Given.put_of_lacks lacks text
    | switch which => exact Given.turnOn_of_lacks lacks
    | louder more =>
      have quiet : g.verbosity = 0 := lacks
      simp [take, quiet, Given.louder, Given.nothing, Given.under, Except.map, Given.maxVerbosity]
  obtain ⟨given, taken⟩ := valid
  rw [apart, alone, taken]
  rfl

theorem alone_lacks {c : Choice} {kind : OptionKind} (other : kind ≠ c.kind) : c.alone.Lacks kind := by
  cases c with
  | value field text =>
    simp only [alone, take]
    cases put : Given.nothing.put field text with
    | error fault => exact Given.nothing_lacks kind
    | ok g => exact Given.lacks_of_put put other (Given.nothing_lacks kind)
  | louder more => exact Given.lacks_louder other (Given.nothing_lacks kind) (more + 1)
  | switch which =>
    cases which with
    | verbose => exact Given.lacks_louder other (Given.nothing_lacks kind) 1
    | help => exact Given.nothing_lacks kind
    | legacy =>
      cases kind with
      | field kept =>
        cases kept with
        | device | retries | delayMs | wait | workspace | transport => rfl
      | switch kept =>
        cases kept with
        | legacy => exact absurd rfl other
        | verbose | quarantine => rfl
        | help => trivial
    | quarantine =>
      cases kind with
      | field kept =>
        cases kept with
        | device | retries | delayMs | wait | workspace | transport => rfl
      | switch kept =>
        cases kept with
        | quarantine => exact absurd rfl other
        | legacy | verbose => rfl
        | help => trivial

/-- What options give together. -/
def gathered (choices : List Choice) : Given := (choices.map alone).foldr Given.under .nothing

theorem gathered_cons (c : Choice) (choices : List Choice) :
    gathered (c :: choices) = c.alone.under (gathered choices) := rfl

theorem gathered_append (outer inner : List Choice) :
    gathered (outer ++ inner) = (gathered outer).under (gathered inner) := by
  induction outer with
  | nil => exact (Given.nothing_under _).symm
  | cons c outer ih => rw [List.cons_append, gathered_cons, ih, gathered_cons, Given.under_assoc]

theorem gathered_lacks {choices : List Choice} {kind : OptionKind}
    (absent : kind ∉ choices.map Choice.kind) : (gathered choices).Lacks kind := by
  induction choices with
  | nil => exact Given.nothing_lacks kind
  | cons c choices ih =>
    rw [List.map_cons, List.mem_cons, not_or] at absent
    exact (alone_lacks absent.1).under (ih absent.2)

/-- The order in which options are given does not matter, unless one is given twice. -/
theorem gathered_perm {choices choices' : List Choice} (same : choices.Perm choices')
    (once : (choices.map Choice.kind).Nodup) : gathered choices = gathered choices' := by
  induction same with
  | nil => rfl
  | cons c _ ih => rw [gathered_cons, gathered_cons, ih (List.nodup_cons.mp once).2]
  | swap c d choices =>
    have other : d.kind ≠ c.kind := fun same => (List.nodup_cons.mp once).1 (by simp [same])
    have comm : d.alone.under c.alone = c.alone.under d.alone :=
      Given.under_comm fun kind => by
        by_cases own : kind = d.kind
        · exact .inr (alone_lacks fun alike => other (own.symm.trans alike))
        · exact .inl (alone_lacks own)
    simp only [gathered_cons, ← Given.under_assoc, comm]
  | trans one two ih ih' =>
    rw [ih once, ih' ((one.map _).nodup_iff.mp once)]

theorem take_each {choices : List Choice} (valid : ∀ c ∈ choices, c.Valid)
    (once : (choices.map Choice.kind).Nodup) {g : Given} (lacks : ∀ c ∈ choices, g.Lacks c.kind) :
    choices.foldlM (fun g c => c.take g) g = .ok (g.under (gathered choices)) := by
  induction choices generalizing g with
  | nil => exact congrArg Except.ok (Given.under_nothing g).symm
  | cons c choices ih =>
    rw [List.map_cons, List.nodup_cons] at once
    rw [List.foldlM_cons, take_of_lacks (valid c List.mem_cons_self) (lacks c List.mem_cons_self)]
    have later : ∀ d ∈ choices, (g.under c.alone).Lacks d.kind := fun d there =>
      (lacks d (List.mem_cons_of_mem c there)).under
        (alone_lacks fun alike => once.1 (alike ▸ List.mem_map_of_mem there))
    exact (ih (fun d there => valid d (List.mem_cons_of_mem c there)) once.2 later).trans
      (congrArg Except.ok (Given.under_assoc ..))

end Choice

/-! ### How options are written -/

/-- The words of one option at a level. A value in a word of its own does not start with a dash. -/
inductive Spelled (level : Level) : Choice → List String → Prop where
  | apart {name : String} {field : Field} {text : String}
      (known : (name, .field field) ∈ level.options) (bare : text.toList.head? ≠ some '-') :
      Spelled level (.value field text) ["--" ++ name, text]
  | joined {name : String} {field : Field} (text : String)
      (known : (name, .field field) ∈ level.options) :
      Spelled level (.value field text) ["--" ++ name ++ "=" ++ text]
  | letterApart {letter : Char} {field : Field} {text : String}
      (known : letterOption? letter = some (.field field)) (bare : text.toList.head? ≠ some '-') :
      Spelled level (.value field text) [String.ofList ['-', letter], text]
  | letterJoined {letter : Char} {field : Field} {first : Char} {text : List Char}
      (known : letterOption? letter = some (.field field)) (bare : first ≠ '=') :
      Spelled level (.value field (String.ofList (first :: text)))
        [String.ofList ('-' :: letter :: first :: text)]
  | letterEquals {letter : Char} {field : Field} (text : List Char)
      (known : letterOption? letter = some (.field field)) :
      Spelled level (.value field (String.ofList text))
        [String.ofList ('-' :: letter :: '=' :: text)]
  | switch {name : String} {which : Switch} (known : (name, .switch which) ∈ level.options) :
      Spelled level (.switch which) ["--" ++ name]
  | letters {letter : Char} (more : Nat) (known : letterOption? letter = some (.switch .verbose)) :
      Spelled level (.louder more) [String.ofList ('-' :: List.replicate (more + 1) letter)]

/-- Options one after another at one level. -/
inductive Lays (level : Level) : List Choice → List String → Prop where
  | nil : Lays level [] []
  | cons {c : Choice} {choices : List Choice} {words rest : List String}
      (one : Spelled level c words) (others : Lays level choices rest) :
      Lays level (c :: choices) (words ++ rest)

/-- A command line that ends at the level `last`, with the options of each level on the way there. -/
inductive Arranged : Level → List Choice → List String → Level → Prop where
  | last {level : Level} {choices : List Choice} {words : List String}
      (options : Lays level choices words) (ends : level.branches = false) :
      Arranged level choices words level
  | inside {level inner last : Level} {choices choices' : List Choice} {word : String}
      {words words' : List String} (options : Lays level choices words)
      (known : (word, inner) ∈ level.words) (rest : Arranged inner choices' words' last) :
      Arranged level (choices ++ choices') (words ++ word :: words') last

/-! ### How they are read -/

namespace Word

theorem ofText_plain {text : String} (bare : text.toList.head? ≠ some '-') :
    ofText text = .plain text := by
  unfold ofText
  split
  next dashes => simp [dashes] at bare
  next dashes => simp [dashes] at bare
  next dash => simp [dash] at bare
  next => rfl

theorem ofText_letters {letter : Char} (other : letter ≠ '-') (rest : List Char) :
    ofText (String.ofList ('-' :: letter :: rest)) = .letters (letter :: rest) := by
  unfold ofText
  rw [String.toList_ofList]
  split
  next dashes => simp [other] at dashes
  next dashes => simp [other] at dashes
  next dash =>
    cases dash
    rfl
  next plain => exact absurd rfl (plain letter rest)

theorem ofText_dashes {rest : List Char} (there : rest ≠ []) :
    ofText (String.ofList ('-' :: '-' :: rest)) = .long (String.ofList (rest.takeWhile (· ≠ '=')))
      ((rest.dropWhile (· ≠ '=')).tail?.map String.ofList) := by
  unfold ofText
  rw [String.toList_ofList]
  split
  next alone =>
    cases alone
    exact absurd rfl there
  next dashes =>
    cases dashes
    cases List.dropWhile (· ≠ '=') rest <;> rfl
  next apart dash =>
    cases dash
    exact absurd rfl apart
  next apart => exact absurd rfl (apart '-' rest)

theorem before_equals {name : List Char} (bare : '=' ∉ name) :
    ∀ c ∈ name, decide (c ≠ '=') = true := fun _ within =>
  decide_eq_true fun equals => bare (equals ▸ within)

theorem ofText_long {name : String} (there : name ≠ "") (bare : '=' ∉ name.toList) :
    ofText ("--" ++ name) = .long name none := by
  have spelled : "--" ++ name = String.ofList ('-' :: '-' :: name.toList) := by
    apply String.toList_injective
    simp
  rw [spelled, ofText_dashes (by simpa using there),
    List.takeWhile_eq_self_iff.mpr (before_equals bare),
    List.dropWhile_eq_nil_iff.mpr (before_equals bare), String.ofList_toList]
  rfl

theorem ofText_joined {name : String} (bare : '=' ∉ name.toList) (text : String) :
    ofText ("--" ++ name ++ "=" ++ text) = .long name (some text) := by
  have spelled : "--" ++ name ++ "=" ++ text =
      String.ofList ('-' :: '-' :: (name.toList ++ '=' :: text.toList)) := by
    apply String.toList_injective
    simp
  rw [spelled, ofText_dashes (by simp),
    List.takeWhile_append_of_pos (before_equals bare),
    List.dropWhile_append_of_pos (before_equals bare)]
  simp

end Word

theorem Level.lookup_option {level : Level} {name : String} {kind : OptionKind}
    (known : (name, kind) ∈ level.options) :
    level.options.lookup name = some kind ∧ name ≠ "" ∧ '=' ∉ name.toList := by
  have all : ∀ pair ∈ level.options,
      level.options.lookup pair.1 = some pair.2 ∧ pair.1 ≠ "" ∧ '=' ∉ pair.1.toList := by
    cases level <;> decide
  exact all _ known

theorem Level.lookup_word {level inner : Level} {word : String} (known : (word, inner) ∈ level.words) :
    level.words.lookup word = some inner ∧ word ≠ Level.helpWord ∧ word.toList.head? ≠ some '-' := by
  have all : ∀ pair ∈ level.words, level.words.lookup pair.1 = some pair.2 ∧
      pair.1 ≠ Level.helpWord ∧ pair.1.toList.head? ≠ some '-' := by
    cases level <;> decide
  exact all _ known

theorem not_dash {letter : Char} {kind : OptionKind} (known : letterOption? letter = some kind) :
    letter ≠ '-' := by
  rintro rfl
  cases known

namespace Reading

/-- No value is awaited, and with what is pending just so much is given. -/
structure Holds (r : Reading) (g : Given) : Prop where
  settles : r.settle = .ok g
  complete : r.awaited? = none

variable {r : Reading} {g g' : Given}

theorem holds_given (g : Given) : Holds ⟨g, none⟩ g := ⟨rfl, rfl⟩

theorem Holds.await (holds : r.Holds g) (field : Field) :
    r.await field = .ok ⟨g, some ⟨field, none⟩⟩ := by
  rw [Reading.await, holds.settles]
  rfl

theorem Holds.attach (holds : r.Holds g) {field : Field} {text : String}
    (put : g.put field text = .ok g') : r.attach field text = .ok ⟨g', none⟩ := by
  simp only [Reading.attach, holds.settles, bind, Except.bind, put]
  rfl

theorem Holds.turnOn (holds : r.Holds g) {switch : Switch} (on : g.turnOn switch = .ok g') :
    r.turnOn switch = .ok ⟨g', none⟩ := by
  simp only [Reading.turnOn, holds.settles, bind, Except.bind, on]
  rfl

theorem readLong_field {level : Level} {name : String} {field : Field}
    (known : level.options.lookup name = some (.field field)) :
    r.readLong level name none = r.await field ∧
    ∀ text, r.readLong level name (some text) = r.attach field text := by
  unfold Reading.readLong
  rw [known]
  exact ⟨rfl, fun _ => rfl⟩

theorem readLong_switch {level : Level} {name : String} {which : Switch}
    (known : level.options.lookup name = some (.switch which)) :
    r.readLong level name none = r.turnOn which := by
  unfold Reading.readLong
  rw [known]

theorem readLetters_field {letter : Char} {field : Field}
    (known : letterOption? letter = some (.field field)) :
    readLetters [letter] r = r.await field ∧
    (∀ text, readLetters (letter :: '=' :: text) r = r.attach field (String.ofList text)) ∧
    ∀ first text, first ≠ '=' →
      readLetters (letter :: first :: text) r = r.attach field (String.ofList (first :: text)) := by
  refine ⟨?_, fun text => ?_, fun first text bare => ?_⟩
  · unfold readLetters
    rw [known]
  · unfold readLetters
    rw [known]
    rfl
  · unfold readLetters
    rw [known]
    split
    next none => cases none
    next switch => cases switch
    next empty => cases empty
    next equals => exact absurd (List.cons.inj equals).1 bare
    next same _ _ =>
      cases same
      rfl

theorem Holds.readLetters (holds : r.Holds g) {letter : Char}
    (known : letterOption? letter = some (.switch .verbose)) (more : Nat) :
    Reading.readLetters (List.replicate (more + 1) letter) r = .ok ⟨g.louder (more + 1), none⟩ := by
  have once {r : Reading} {g : Given} (holds : r.Holds g) (rest : List Char) :
      Reading.readLetters (letter :: rest) r = Reading.readLetters rest ⟨g.louder 1, none⟩ := by
    have on : g.turnOn .verbose = .ok (g.louder 1) := rfl
    rw [Reading.readLetters.eq_def]
    simp only [known, holds.turnOn on]
    rfl
  induction more generalizing r g with
  | zero => exact once holds []
  | succ more ih =>
    rw [List.replicate_succ, once holds, ih (holds_given _), Given.louder_louder, Nat.add_comm 1]

end Reading

namespace Level

variable {level : Level} {r : Reading} {text : String}

theorem read_long {name : String} {value : Option String} (word : Word.ofText text = .long name value)
    (rest : List String) :
    level.read r (text :: rest) = (r.readLong level name value).bind (level.read · rest) := by
  rw [read, word]
  rfl

theorem read_letters {cluster : List Char} (word : Word.ofText text = .letters cluster)
    (rest : List String) :
    level.read r (text :: rest) = (Reading.readLetters cluster r).bind (level.read · rest) := by
  rw [read, word]
  rfl

/-- A value is no word of its level while it is awaited, whatever it reads like. -/
theorem read_awaited {g : Given} {field : Field} (bare : text.toList.head? ≠ some '-')
    (rest : List String) :
    level.read ⟨g, some ⟨field, none⟩⟩ (text :: rest) =
      level.read ⟨g, some ⟨field, some text⟩⟩ rest := by
  rw [read, Word.ofText_plain bare]
  rfl

theorem read_inside {inner : Level} {word : String} (known : (word, inner) ∈ level.words) {g : Given}
    (holds : r.Holds g) (rest : List String) :
    level.read r (word :: rest) =
      (inner.read .start rest).map fun found => (g.under found.1, found.2) := by
  obtain ⟨found, apart, bare⟩ := lookup_word known
  rw [read, Word.ofText_plain bare]
  simp only [holds.complete, apart, found, holds.settles, decide_false, Bool.and_false,
    Bool.false_eq_true, if_false]
  cases inner.read .start rest <;> rfl

end Level

namespace Spelled

variable {level : Level} {c : Choice} {words : List String}

theorem read (spelled : Spelled level c words) {r : Reading} {g g' : Given} (holds : r.Holds g)
    (taken : c.take g = .ok g') :
    ∃ r' : Reading, r'.Holds g' ∧ ∀ rest, level.read r (words ++ rest) = level.read r' rest := by
  cases spelled with
  | @apart name field text known bare =>
    obtain ⟨found, there, plain⟩ := Level.lookup_option known
    refine ⟨⟨g, some ⟨field, some text⟩⟩, ⟨taken, rfl⟩, fun rest => ?_⟩
    rw [List.cons_append, Level.read_long (Word.ofText_long there plain),
      (Reading.readLong_field found).1, holds.await]
    exact Level.read_awaited bare rest
  | joined text known =>
    obtain ⟨found, -, plain⟩ := Level.lookup_option known
    refine ⟨⟨g', none⟩, Reading.holds_given g', fun rest => ?_⟩
    rw [List.cons_append, Level.read_long (Word.ofText_joined plain text),
      (Reading.readLong_field found).2, holds.attach taken]
    rfl
  | @letterApart letter field text known bare =>
    refine ⟨⟨g, some ⟨field, some text⟩⟩, ⟨taken, rfl⟩, fun rest => ?_⟩
    rw [List.cons_append, Level.read_letters (Word.ofText_letters (not_dash known) []),
      (Reading.readLetters_field known).1, holds.await]
    exact Level.read_awaited bare rest
  | @letterJoined letter field first text known bare =>
    refine ⟨⟨g', none⟩, Reading.holds_given g', fun rest => ?_⟩
    rw [List.cons_append, Level.read_letters (Word.ofText_letters (not_dash known) (first :: text)),
      (Reading.readLetters_field known).2.2 first text bare, holds.attach taken]
    rfl
  | @letterEquals letter field text known =>
    refine ⟨⟨g', none⟩, Reading.holds_given g', fun rest => ?_⟩
    rw [List.cons_append, Level.read_letters (Word.ofText_letters (not_dash known) ('=' :: text)),
      (Reading.readLetters_field known).2.1 text, holds.attach taken]
    rfl
  | switch known =>
    obtain ⟨found, there, plain⟩ := Level.lookup_option known
    refine ⟨⟨g', none⟩, Reading.holds_given g', fun rest => ?_⟩
    rw [List.cons_append, Level.read_long (Word.ofText_long there plain),
      Reading.readLong_switch found, holds.turnOn taken]
    rfl
  | @letters letter more known =>
    obtain rfl := Except.ok.inj taken
    refine ⟨⟨g.louder (more + 1), none⟩, Reading.holds_given _, fun rest => ?_⟩
    rw [List.cons_append, List.replicate_succ,
      Level.read_letters (Word.ofText_letters (not_dash known) (List.replicate more letter)),
      ← List.replicate_succ, holds.readLetters known]
    rfl

theorem anywhere (spelled : Spelled .top c words) (level : Level) : Spelled level c words := by
  have within : Level.top.options ⊆ level.options := by cases level <;> decide
  cases spelled with
  | apart known bare => exact .apart (within known) bare
  | joined text known => exact .joined text (within known)
  | letterApart known bare => exact .letterApart known bare
  | letterJoined known bare => exact .letterJoined known bare
  | letterEquals text known => exact .letterEquals text known
  | switch known => exact .switch (within known)
  | letters more known => exact .letters more known

theorem kind_ne (spelled : Spelled level c words) (other : level ≠ .ping) :
    c.kind ≠ .switch .quarantine ∧ c.kind ≠ .field .transport := by
  have named : ∀ pair ∈ level.options,
      pair.2 ≠ .switch .quarantine ∧ pair.2 ≠ .field .transport := by
    cases level with
    | ping => exact absurd rfl other
    | top | list | status | reset | bootloader | blacklist | showBlacklist | clearBlacklist => decide
  have lettered {letter : Char} {kind : OptionKind} (known : letterOption? letter = some kind) :
      kind ≠ .switch .quarantine ∧ kind ≠ .field .transport := by
    unfold letterOption? at known
    split at known
    case h_4 => cases known
    all_goals
      cases known
      decide
  cases spelled with
  | apart known _ => exact named _ known
  | joined text known => exact named _ known
  | letterApart known _ => exact lettered known
  | letterJoined known _ => exact lettered known
  | letterEquals text known => exact lettered known
  | switch known => exact named _ known
  | letters more known => exact lettered known

end Spelled

namespace Lays

variable {level : Level} {choices : List Choice} {words : List String}

theorem read (laid : Lays level choices words) {r : Reading} {g g' : Given} (holds : r.Holds g)
    (taken : choices.foldlM (fun g c => c.take g) g = .ok g') :
    ∃ r' : Reading, r'.Holds g' ∧ ∀ rest, level.read r (words ++ rest) = level.read r' rest := by
  induction laid generalizing r g with
  | nil =>
    obtain rfl := Except.ok.inj taken
    exact ⟨r, holds, fun rest => rfl⟩
  | @cons c choices words more one others ih =>
    rw [List.foldlM_cons] at taken
    cases first : c.take g with
    | error fault =>
      rw [first] at taken
      cases taken
    | ok given =>
      rw [first] at taken
      obtain ⟨r', holds', reads⟩ := one.read holds first
      obtain ⟨r'', holds'', reads'⟩ := ih holds' taken
      refine ⟨r'', holds'', fun rest => ?_⟩
      rw [List.append_assoc, reads, reads']

theorem read_start (laid : Lays level choices words) (valid : ∀ c ∈ choices, c.Valid)
    (once : (choices.map Choice.kind).Nodup) :
    ∃ r : Reading, r.Holds (Choice.gathered choices) ∧
      ∀ rest, level.read .start (words ++ rest) = level.read r rest := by
  apply laid.read (Reading.holds_given .nothing)
  rw [Choice.take_each valid once fun c _ => Given.nothing_lacks c.kind, Given.nothing_under]

theorem kinds (laid : Lays level choices words) (other : level ≠ .ping) :
    .switch .quarantine ∉ choices.map Choice.kind ∧ .field .transport ∉ choices.map Choice.kind := by
  induction laid with
  | nil => exact ⟨List.not_mem_nil, List.not_mem_nil⟩
  | cons one others ih =>
    obtain ⟨quarantine, transport⟩ := one.kind_ne other
    simp [quarantine.symm, transport.symm, ih]

end Lays

theorem Level.exists_task {level : Level} (ends : level.branches = false) (g : Given) :
    ∃ task, level.task? g = some task := by
  cases level with
  | top | blacklist => cases ends
  | list | ping | status | reset | bootloader | showBlacklist | clearBlacklist => exact ⟨_, rfl⟩

theorem Level.task?_under {g h : Given} (quarantine : g.Lacks (.switch .quarantine))
    (transport : g.Lacks (.field .transport)) (level : Level) :
    level.task? (g.under h) = level.task? h := by
  have quiet : g.quarantine = false := quarantine
  have none : g.transport = none := transport
  simp only [Level.task?, Given.under, quiet, none, Bool.or_false, Option.or_none]

theorem Arranged.read {level last : Level} {choices : List Choice} {words : List String}
    (arranged : Arranged level choices words last) (valid : ∀ c ∈ choices, c.Valid)
    (once : (choices.map Choice.kind).Nodup) :
    ∃ task, last.task? (Choice.gathered choices) = some task ∧
      level.read .start words = .ok (Choice.gathered choices, task) := by
  induction arranged with
  | @last level choices words options ends =>
    obtain ⟨r, holds, reads⟩ := options.read_start valid once
    obtain ⟨task, found⟩ := Level.exists_task ends (Choice.gathered choices)
    refine ⟨task, found, ?_⟩
    have all := reads []
    rw [List.append_nil] at all
    rw [all, Level.read, Reading.finish, holds.settles]
    simp only [bind, Except.bind, found]
    rfl
  | @inside level inner last choices choices' word words words' options known rest ih =>
    rw [List.map_append, List.nodup_append] at once
    obtain ⟨r, holds, reads⟩ := options.read_start
      (fun c there => valid c (List.mem_append_left _ there)) once.1
    obtain ⟨task, found, below⟩ := ih (fun c there => valid c (List.mem_append_right _ there)) once.2.1
    have other : level ≠ .ping := by
      rintro rfl
      cases known
    obtain ⟨quarantine, transport⟩ := options.kinds other
    rw [Choice.gathered_append]
    refine ⟨task, ?_, ?_⟩
    · rw [Level.task?_under (Choice.gathered_lacks quarantine) (Choice.gathered_lacks transport), found]
    · rw [reads, Level.read_inside known holds, below]
      rfl

/-- Every command line that gives an option at most once reads as what its options give together, for
the task of its last level: so it does not matter in which order and at which levels they are given. -/
theorem options_stand_anywhere {last : Level} {choices choices' : List Choice}
    {words words' : List String} (placed : Arranged .top choices words last)
    (moved : Arranged .top choices' words' last) (same : choices.Perm choices')
    (valid : ∀ c ∈ choices, c.Valid) (once : (choices.map Choice.kind).Nodup) :
    ∃ task, last.task? (Choice.gathered choices) = some task ∧
      CommandLine.parse words = .ok ((Choice.gathered choices).commandLine task) ∧
      CommandLine.parse words' = .ok ((Choice.gathered choices).commandLine task) := by
  obtain ⟨task, found, reads⟩ := placed.read valid once
  obtain ⟨task', found', reads'⟩ := moved.read (fun c there => valid c (same.mem_iff.mpr there))
    ((same.map _).nodup_iff.mp once)
  rw [← Choice.gathered_perm same once] at found' reads'
  obtain rfl : task = task' := Option.some.inj (found.symm.trans found')
  refine ⟨task, found, ?_, ?_⟩
  · rw [CommandLine.parse, reads]
    rfl
  · rw [CommandLine.parse, reads']
    rfl

theorem options_round_a_nested_word :
    CommandLine.parse ["-d", "list", "--retries", "0", "blacklist", "-vv", "--legacy", "show",
      "--wait=5"] = .ok ⟨"list", some 0, none, true, some 5, ".", 2, .showBlacklist⟩ ∧
    CommandLine.parse ["--wait=5", "--legacy", "blacklist", "show", "-vv", "-d", "list",
      "--retries", "0"] = .ok ⟨"list", some 0, none, true, some 5, ".", 2, .showBlacklist⟩ := by
  have device (level : Level) : Spelled level (.value .device "list") ["-d", "list"] :=
    @Spelled.letterApart level 'd' .device "list" rfl (by decide)
  have retries (level : Level) : Spelled level (.value .retries "0") ["--retries", "0"] :=
    (@Spelled.apart .top "retries" .retries "0" (by decide) (by decide)).anywhere level
  have verbose (level : Level) : Spelled level (.louder 1) ["-vv"] :=
    @Spelled.letters level 'v' 1 rfl
  have legacy (level : Level) : Spelled level (.switch .legacy) ["--legacy"] :=
    (@Spelled.switch .top "legacy" .legacy (by decide)).anywhere level
  have wait (level : Level) : Spelled level (.value .wait "5") ["--wait=5"] :=
    (@Spelled.joined .top "wait" .wait "5" (by decide)).anywhere level
  have placed := Arranged.inside (.cons (device .top) (.cons (retries .top) .nil))
    (show ("blacklist", Level.blacklist) ∈ _ by decide)
    (.inside (.cons (verbose _) (.cons (legacy _) .nil))
      (show ("show", Level.showBlacklist) ∈ _ by decide) (.last (.cons (wait _) .nil) rfl))
  have moved := Arranged.inside (.cons (wait .top) (.cons (legacy .top) .nil))
    (show ("blacklist", Level.blacklist) ∈ _ by decide)
    (.inside .nil (show ("show", Level.showBlacklist) ∈ _ by decide)
      (.last (.cons (verbose _) (.cons (device _) (.cons (retries _) .nil))) rfl))
  have valid : ∀ c ∈ [.value .device "list", .value .retries "0", .louder 1, .switch .legacy,
      .value .wait "5"], Choice.Valid c := by
    simp only [List.forall_mem_cons]
    exact ⟨⟨_, rfl⟩, ⟨_, rfl⟩, ⟨_, rfl⟩, ⟨_, rfl⟩, ⟨_, rfl⟩, nofun⟩
  obtain ⟨task, found, one, other⟩ := options_stand_anywhere placed moved (by decide) valid (by decide)
  cases found
  exact ⟨one, other⟩

end DeviceConnect
