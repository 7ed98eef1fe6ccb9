import DeviceConnect.Proofs.Blacklist
import DeviceConnect.Proofs.CommandLine
import DeviceConnect.Proofs.History

/-! What a sweep probes, reports and puts on the blacklist. A candidate has a turn if its text is not
on the list when it is reached, so the turns before it decide. The report, the log and the new
entries are read off the turns. -/
namespace DeviceConnect

variable {σ ℓ φ : Type}

/-! ### Saving a list -/

theorem Settings.withBlacklist_withBlacklist (s : Settings) (entries : List String) :
    (s.withBlacklist entries).withBlacklist = s.withBlacklist := by
  funext later
  exact congrArg (Settings.mk s.path) (Json.Members.insert_insert s.root blacklistKey _ _)

namespace Blacklist

def saveList (disk : Disk φ) (store : Option Settings) (entries : List String) (files : φ) :
    Except SettingsError Unit × φ :=
  match store with
  | none => (.ok (), files)
  | some s => (s.withBlacklist entries).save disk files

/-- Whatever list is put into its document, the document becomes what `store` becomes. -/
def SavesLike (b : Blacklist) (store : Option Settings) : Prop :=
  b.store.map Settings.withBlacklist = store.map Settings.withBlacklist

variable {b : Blacklist} {store : Option Settings}

/-- A list that could not be saved stays in the document until the next one overwrites it, so what
is written depends only on the document of the start. -/
theorem SavesLike.commit (like : b.SavesLike store) (disk : Disk φ) (entries : List String)
    (files : φ) :
    ∃ left : Blacklist, b.commit disk entries files =
        ((saveList disk store entries files).1, left, (saveList disk store entries files).2) ∧
      left.SavesLike store ∧
      left.entries = if (saveList disk store entries files).1.isOk then entries else b.entries := by
  obtain ⟨held, current⟩ := b
  cases store with
  | none =>
      have unbound : current = none := Option.map_eq_none_iff.mp like
      subst unbound
      exact ⟨⟨entries, none⟩, rfl, rfl, rfl⟩
  | some s =>
      obtain ⟨s', rfl, same⟩ := Option.map_eq_some_iff.mp like
      have put : (s'.withBlacklist entries).withBlacklist = s.withBlacklist :=
        (s'.withBlacklist_withBlacklist entries).trans same
      have saves : saveList disk (some s) entries files = (s'.withBlacklist entries).save disk files :=
        congrArg (Settings.save disk · files) (congrFun same.symm entries)
      rw [saves]
      rcases written : (s'.withBlacklist entries).save disk files with ⟨e | ⟨⟩, after⟩
      · exact ⟨_, commit_of_error written, congrArg some put, rfl⟩
      · exact ⟨_, commit_of_ok written, congrArg some put, rfl⟩

theorem SavesLike.quarantine (like : b.SavesLike store) (disk : Disk φ) {text : String}
    (absent : text ∉ b.entries) (files : φ) :
    let saved := saveList disk store (b.entries ++ [text]) files
    ∃ left : Blacklist,
      Coordinator.quarantine disk text b files = (saved.1.isOk, left, saved.2) ∧
      left.SavesLike store ∧
      left.entries = if saved.1.isOk then b.entries ++ [text] else b.entries := by
  obtain ⟨left, committed, like, entries⟩ := like.commit disk (b.entries ++ [text]) files
  refine ⟨left, ?_, like, entries⟩
  have missing : b.contains text = false := decide_eq_false absent
  simp only [Coordinator.quarantine, add, missing, committed]
  generalize saveList disk store (b.entries ++ [text]) files = saved
  obtain ⟨e | ⟨⟩, after⟩ := saved
  · rfl
  · rfl

end Blacklist

/-! ### Turns -/

/-- A candidate that is probed, with the blacklist and the files that it meets. -/
structure Turn (φ : Type) where
  candidate : Address
  entries : List String
  files : φ
  greeting : Greeting

namespace Turn

def text (t : Turn φ) : String := t.candidate.format

def events (t : Turn φ) : List Event := t.greeting.probeEvents t.candidate

/-- A turn whose candidate is to be put on the blacklist if that can be saved. -/
def condemns (quarantining : Bool) (t : Turn φ) : Bool := !t.greeting.isPong && quarantining

section
variable (disk : Disk φ) (store : Option Settings) (quarantining : Bool) (t : Turn φ)

def save : Except SettingsError Unit × φ :=
  Blacklist.saveList disk store (t.entries ++ [t.text]) t.files

def quarantined : Bool := t.condemns quarantining && (t.save disk store).1.isOk

def result : PingResult := ⟨t.candidate, t.greeting.isPong, t.quarantined disk store quarantining⟩

def entriesLeft : List String :=
  if t.quarantined disk store quarantining then t.entries ++ [t.text] else t.entries

def filesLeft : φ := if t.condemns quarantining then (t.save disk store).2 else t.files

theorem quarantined_iff : t.quarantined disk store quarantining = true ↔
    t.greeting.isPong = false ∧ quarantining = true ∧ (t.save disk store).1 = .ok () := by
  have saved : (t.save disk store).1.isOk = true ↔ (t.save disk store).1 = .ok () := by
    rcases (t.save disk store).1 with e | ⟨⟩
    · exact ⟨nofun, nofun⟩
    · exact ⟨fun _ => rfl, fun _ => rfl⟩
  simp only [quarantined, condemns, Bool.and_eq_true, Bool.not_eq_true', saved, and_assoc]

end
end Turn

/-- The turns that candidates lead to, from one blacklist and files to others. A candidate whose text
is on the list by then is passed over. -/
inductive Turns (disk : Disk φ) (store : Option Settings) (quarantining : Bool) :
    List String → φ → List Address → List (Turn φ) → List String → φ → Prop
  | done {entries files} : Turns disk store quarantining entries files [] [] entries files
  | passed {entries files candidate rest turns last after} : candidate.format ∈ entries →
      Turns disk store quarantining entries files rest turns last after →
      Turns disk store quarantining entries files (candidate :: rest) turns last after
  | taken {t rest later last after} : t.text ∉ t.entries →
      Turns disk store quarantining (t.entriesLeft disk store quarantining)
        (t.filesLeft disk store quarantining) rest later last after →
      Turns disk store quarantining t.entries t.files (t.candidate :: rest) (t :: later) last after

/-- The texts that a report says were put on the blacklist, in its order. -/
def quarantinedTexts (report : List PingResult) : List String :=
  (report.filter PingResult.quarantined).map fun r => r.address.format

theorem quarantinedTexts_cons (r : PingResult) (later : List PingResult) :
    quarantinedTexts (r :: later) =
      (if r.quarantined then [r.address.format] else []) ++ quarantinedTexts later := by
  unfold quarantinedTexts
  split
  · next quarantined =>
      rw [List.filter_cons_of_pos quarantined]
      rfl
  · next spared =>
      rw [List.filter_cons_of_neg spared]
      rfl

namespace Turns

variable {disk : Disk φ} {store : Option Settings} {quarantining : Bool} {entries last : List String}
  {files after : φ} {found : List Address} {turns : List (Turn φ)}

theorem last_eq (taken : Turns disk store quarantining entries files found turns last after) :
    last = entries ++ quarantinedTexts (turns.map (Turn.result disk store quarantining)) := by
  induction taken with
  | done => exact (List.append_nil _).symm
  | passed _ _ ih => exact ih
  | @taken t _ later _ _ _ _ ih =>
      rw [ih, Turn.entriesLeft, List.map_cons, quarantinedTexts_cons]
      have reported : (t.result disk store quarantining).quarantined =
          t.quarantined disk store quarantining := rfl
      rw [reported]
      cases t.quarantined disk store quarantining with
      | false => rfl
      | true => exact List.append_assoc t.entries [t.text] _

theorem candidates_sublist
    (taken : Turns disk store quarantining entries files found turns last after) :
    (turns.map Turn.candidate).Sublist found := by
  induction taken with
  | done => exact List.Sublist.slnil
  | passed _ _ ih => exact ih.cons _
  | taken _ _ ih => exact ih.cons_cons _

theorem before {earlier later : List (Turn φ)} {t : Turn φ}
    (taken : Turns disk store quarantining entries files found (earlier ++ t :: later) last after) :
    ∃ reached, Turns disk store quarantining entries files reached earlier t.entries t.files := by
  generalize whole : earlier ++ t :: later = turns at taken
  induction taken generalizing earlier with
  | done => cases earlier <;> cases whole
  | passed listed _ ih =>
      obtain ⟨reached, sooner⟩ := ih whole
      exact ⟨_, .passed listed sooner⟩
  | taken absent _ ih =>
      cases earlier with
      | nil =>
          cases whole
          exact ⟨[], .done⟩
      | cons first earlier =>
          cases whole
          obtain ⟨reached, sooner⟩ := ih rfl
          exact ⟨_, .taken absent sooner⟩

end Turns

/-! ### The sweep -/

theorem Blacklist.SavesLike.deal {b : Blacklist} {store : Option Settings}
    (like : b.SavesLike store) (disk : Disk φ) (quarantining : Bool) (t : Turn φ)
    (met : t.entries = b.entries) (absent : t.text ∉ b.entries) :
    ∃ left : Blacklist,
      (if t.condemns quarantining then Coordinator.quarantine disk t.text b t.files
        else (false, b, t.files)) =
        (t.quarantined disk store quarantining, left, t.filesLeft disk store quarantining) ∧
      left.SavesLike store ∧ left.entries = t.entriesLeft disk store quarantining := by
  unfold Turn.entriesLeft Turn.quarantined Turn.filesLeft Turn.save
  cases t.condemns quarantining with
  | false => exact ⟨b, rfl, like, met.symm⟩
  | true =>
      rw [met]
      exact like.quarantine disk absent t.files

namespace Coordinator

variable {host : Host σ ℓ} {disk : Disk φ} {quarantining : Bool} {candidate : Address}
  {rest : List Address} {b left : Blacklist} {w w' : σ} {files after : φ}
  {responded quarantined : Bool}

theorem sweep_of_mem (listed : candidate.format ∈ b.entries) :
    sweep host disk quarantining (candidate :: rest) b w files =
      sweep host disk quarantining rest b w files := if_pos (decide_eq_true listed)

theorem sweep_of_not_mem (absent : candidate.format ∉ b.entries)
    (probed : host.probe candidate w = (responded, w'))
    (dealt : (if !responded && quarantining then quarantine disk candidate.format b files
      else (false, b, files)) = (quarantined, left, after)) :
    sweep host disk quarantining (candidate :: rest) b w files =
      let run := sweep host disk quarantining rest left w' after
      (⟨candidate, responded, quarantined⟩ :: run.1, run.2) := by
  have missing : b.contains candidate.format = false := decide_eq_false absent
  simp only [sweep, missing, probed, dealt]
  rfl

/-- Whatever the blacklist has come to, candidates lead to turns on the entries and files that it
leaves, and each turn writes its own actions to the log. -/
theorem sweep_traced (host : Host σ ℓ) (disk : Disk φ) {store : Option Settings}
    (quarantining : Bool) (found : List Address) {b : Blacklist} (like : b.SavesLike store) (w : σ)
    (log : List Event) (files : φ) :
    ∃ turns, let run := sweep host.traced disk quarantining found b (w, log) files
      Turns disk store quarantining b.entries files found turns run.2.1.entries run.2.2.2 ∧
      run.1 = turns.map (Turn.result disk store quarantining) ∧
      run.2.2.1.2 = log ++ turns.flatMap Turn.events := by
  induction found generalizing b w log files with
  | nil => exact ⟨[], .done, rfl, (List.append_nil log).symm⟩
  | cons candidate rest ih =>
      by_cases listed : candidate.format ∈ b.entries
      · obtain ⟨turns, taken, report⟩ := ih like w log files
        refine ⟨turns, ?_⟩
        rw [sweep_of_mem listed]
        exact ⟨.passed listed taken, report⟩
      · obtain ⟨greeting, w', probed⟩ := host.probe_traced candidate w log
        let t : Turn φ := ⟨candidate, b.entries, files, greeting⟩
        obtain ⟨left, dealt, like, entries⟩ := like.deal disk quarantining t rfl listed
        obtain ⟨later, taken, results, written⟩ :=
          ih like w' (log ++ t.events) (t.filesLeft disk store quarantining)
        rw [entries] at taken
        refine ⟨t :: later, ?_⟩
        rw [sweep_of_not_mem listed probed dealt]
        refine ⟨.taken listed taken, congrArg _ results, ?_⟩
        rw [List.flatMap_cons, ← List.append_assoc]
        exact written

end Coordinator

/-- What a sweep returns and leaves, given the turns that it took. -/
structure Swept (disk : Disk φ) (filter : Option Transport) (quarantining : Bool)
    (c : Coordinator (Address × ℓ)) (files : φ) (found : List Address) (turns : List (Turn φ))
    (run : List PingResult × Coordinator (Address × ℓ) × (σ × List Event) × φ) : Prop where
  /-- One turn for each candidate whose text is not on the blacklist when it is reached. -/
  taken : Turns disk c.blacklist.store quarantining c.blacklist.entries files found turns
    run.2.1.blacklist.entries run.2.2.2
  results : run.1 = turns.map (Turn.result disk c.blacklist.store quarantining)
  log : run.2.2.1.2 = .enumerated filter found :: turns.flatMap Turn.events
  order : (run.1.map PingResult.address).Sublist found
  met : ∀ earlier t later, turns = earlier ++ t :: later → t.entries = c.blacklist.entries ++
    quarantinedTexts (earlier.map (Turn.result disk c.blacklist.store quarantining))
  responded : ∀ t ∈ turns, (t.result disk c.blacklist.store quarantining).responded = true ↔
    t.greeting = .answered (.ok .pong)
  quarantined : ∀ t ∈ turns, (t.result disk c.blacklist.store quarantining).quarantined = true ↔
    (t.result disk c.blacklist.store quarantining).responded = false ∧ quarantining = true ∧
      (t.save disk c.blacklist.store).1 = .ok ()
  entries : run.2.1.blacklist.entries = c.blacklist.entries ++ quarantinedTexts run.1
  spared : ∀ r ∈ run.1, r.responded = true → r.quarantined = false
  rest : run.2.1 = { c with blacklist := run.2.1.blacklist }

/-- A sweep is always made up of such turns, and it is the sweep without a log. -/
theorem pingAll_swept (host : Host σ ℓ) (disk : Disk φ) (filter : Option Transport)
    (quarantining : Bool) (c : Coordinator (Address × ℓ)) (w : σ) (files : φ) :
    let run := c.pingAll host.traced disk filter quarantining (w, []) files
    (∃ turns, Swept disk filter quarantining c files (host.enumerate filter w).1 turns run) ∧
      (c.mapLink Prod.snd).pingAll host disk filter quarantining w files =
        (run.1, run.2.1.mapLink Prod.snd, run.2.2.1.1, run.2.2.2) := by
  refine ⟨?_, Coordinator.pingAll_simulated host.traced_simulates disk filter quarantining c (w, [])
    files⟩
  obtain ⟨turns, taken, results, written⟩ := Coordinator.sweep_traced host disk quarantining
    (host.enumerate filter w).1 (rfl : c.blacklist.SavesLike c.blacklist.store)
    (host.enumerate filter w).2 [.enumerated filter (host.enumerate filter w).1] files
  refine ⟨turns, {
    taken
    results
    log := written
    order := ?_
    met := ?_
    responded := fun t _ => Greeting.isPong_iff
    quarantined := fun t _ => t.quarantined_iff disk c.blacklist.store quarantining
    entries := taken.last_eq.trans (congrArg _ (congrArg quarantinedTexts results.symm))
    spared := ?_
    rest := rfl }⟩
  · have same : (turns.map (Turn.result disk c.blacklist.store quarantining)).map
        PingResult.address = turns.map Turn.candidate := List.map_map
    exact results ▸ same ▸ taken.candidates_sublist
  · rintro earlier t later rfl
    obtain ⟨reached, sooner⟩ := taken.before
    exact sooner.last_eq
  · intro r member answered
    obtain ⟨t, _, rfl⟩ := List.mem_map.mp (results ▸ member)
    refine Bool.eq_false_iff.mpr fun quarantined => ?_
    obtain ⟨silent, _⟩ := (t.quarantined_iff disk c.blacklist.store quarantining).mp quarantined
    exact Bool.false_ne_true (silent.symm.trans answered)

end DeviceConnect
