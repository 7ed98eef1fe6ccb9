import DeviceConnect.Proofs.CommandLine
import DeviceConnect.Proofs.Session
import DeviceConnect.Proofs.Trying

/-! What command lines send, and over which link. A link is known by the place in the log where it was
opened, so that two links to one device are told apart. A reset command is the last one of its run, and
goes over the link whose greeting was welcomed. -/
namespace DeviceConnect

variable {σ ℓ φ : Type}

/-- What is done with devices, and their answers. -/
inductive Dealing where
  | opened (address : Address) (failure : Option TransportError)
  | requested (link : Nat) (command : Command) (answer : Except TransportError Response)
  | closed (link : Nat)

/-- The same host with its dealings written to the end of a list; a link carries the place of its
opening there. -/
def Host.numbered (host : Host σ ℓ) : Host (σ × List Dealing) (Nat × ℓ) where
  enumerate filter := fun (world, log) =>
    let (found, world) := host.enumerate filter world
    (found, world, log)
  openLink address := fun (world, log) =>
    let (result, world) := host.openLink address world
    (result.map (log.length, ·), world, log ++ [.opened address (failure? result)])
  request := fun (number, link) command (world, log) =>
    let (answer, link, world) := host.request link command world
    (answer, (number, link), world, log ++ [.requested number command answer])
  close := fun (number, link) (world, log) => (host.close link world, log ++ [.closed number])
  wait span := fun (world, log) => (host.wait span world, log)
  now := fun (world, _) => host.now world
  ignored state event := fun (world, log) => (host.ignored state event world, log)

theorem Host.numbered_simulates (host : Host σ ℓ) :
    host.numbered.Simulates host Prod.fst Prod.snd where
  enumerate _ _ := rfl
  openLink address w := by
    rcases result : host.openLink address w.1 with ⟨_ | _, _⟩ <;>
      simp [Host.numbered, result, Except.map]
  request _ _ _ := rfl
  close _ _ := rfl
  wait _ _ := rfl
  ignored _ _ _ := rfl

namespace Host

theorem numbered_openLink (host : Host σ ℓ) (address : Address) (w : σ) (log : List Dealing) :
    host.numbered.openLink address (w, log) =
      ((host.openLink address w).1.map (log.length, ·), (host.openLink address w).2,
        log ++ [.opened address (failure? (host.openLink address w).1)]) := rfl

theorem numbered_request (host : Host σ ℓ) (link : Nat × ℓ) (command : Command) (w : σ)
    (log : List Dealing) : host.numbered.request link command (w, log) =
      ((host.request link.2 command w).1, (link.1, (host.request link.2 command w).2.1),
        (host.request link.2 command w).2.2,
        log ++ [.requested link.1 command (host.request link.2 command w).1]) := rfl

theorem numbered_close (host : Host σ ℓ) (link : Nat × ℓ) (w : σ) (log : List Dealing) :
    host.numbered.close link (w, log) = (host.close link.2 w, log ++ [.closed link.1]) := rfl

end Host

/-- Devices visited one after the other: each cannot be opened, or is opened, sent the one command,
and closed again whatever it answered. -/
inductive Visits (command : Command) (left : Except TransportError Response → Prop) :
    List Dealing → Prop where
  | none : Visits command left []
  | unopened {log address e} : Visits command left log →
      Visits command left (log ++ [.opened address (some e)])
  | sent {log address answer} : Visits command left log → left answer →
      Visits command left (log ++ [.opened address none, .requested log.length command answer,
        .closed log.length])

/-- Whether the options allow the version that a device speaks. -/
def Welcome (options : OpenOptions) (identity : DeviceHello) : Prop :=
  identity.protocolVersion = 2 ∨ identity.protocolVersion = 1 ∧ options.allowLegacy = true

/-- An answer that is no greeting of a welcome device. -/
def InVain (options : OpenOptions) (answer : Except TransportError Response) : Prop :=
  ∀ identity, answer = .ok (.hello identity) → ¬Welcome options identity

/-- Devices that were greeted in vain, one after the other. -/
abbrev Greetings (options : OpenOptions) : List Dealing → Prop :=
  Visits (.hello Protocol.version) (InVain options)

/-- Greetings in vain, and then one of a device that is welcome; its link is left open. -/
inductive Greeted (options : OpenOptions) : List Dealing → Nat → DeviceHello → Prop where
  | last {log address identity} : Greetings options log → Welcome options identity →
      Greeted options (log ++ [.opened address none,
        .requested log.length (.hello Protocol.version) (.ok (.hello identity))]) log.length identity

/-- The dealings that a task may have, from the first to the last. -/
inductive Conduct (options : OpenOptions) : Task → List Dealing → Prop where
  | list : Conduct options .list []
  | showBlacklist : Conduct options .showBlacklist []
  | clearBlacklist : Conduct options .clearBlacklist []
  | ping {quarantine transport log} : Visits .ping (fun _ => True) log →
      Conduct options (.ping quarantine transport) log
  | unconnected {task log} : task = .status ∨ task = .reset ∨ task = .bootloader →
      Greetings options log → Conduct options task log
  | status {log number identity} : Greeted options log number identity →
      Conduct options .status (log ++ [.closed number])
  | reset {log number identity answer} : Greeted options log number identity →
      Conduct options .reset (log ++ [.requested number .reset answer, .closed number])
  | bootloader {log number identity answer} : Greeted options log number identity →
      identity.mode = .normal →
      Conduct options .bootloader
        (log ++ [.requested number .resetToBootloader answer, .closed number])
  | spared {log number identity} : Greeted options log number identity →
      identity.mode = .bootloader → Conduct options .bootloader (log ++ [.closed number])

/-! ### Reset commands -/

def Command.restarts : Command → Bool
  | .reset => true
  | .resetToBootloader => true
  | _ => false

/-- Where a reset command may stand: right behind the greeting of the device that gets it, for a task
that asks for it, with nothing but the end of that link to follow. -/
structure Warranted (options : OpenOptions) (task : Task) (before : List Dealing) (number : Nat)
    (command : Command) (after : List Dealing) : Prop where
  greeted : ∃ identity, Greeted options before number identity ∧
    (task = .reset ∧ command = .reset ∨
      task = .bootloader ∧ command = .resetToBootloader ∧ identity.mode = .normal)
  last : after = [.closed number]

theorem Visits.command_eq {command : Command} {left : Except TransportError Response → Prop}
    {log : List Dealing} (visits : Visits command left log) {number : Nat} {sent : Command}
    {answer : Except TransportError Response} (member : .requested number sent answer ∈ log) :
    sent = command := by
  induction visits with
  | none => cases member
  | unopened _ ih =>
      rcases List.mem_append.mp member with early | last
      · exact ih early
      · cases List.mem_singleton.mp last
  | sent _ _ ih =>
      rcases List.mem_append.mp member with early | last
      · exact ih early
      · simp only [List.mem_cons, reduceCtorEq, List.not_mem_nil, false_or, or_false] at last
        cases last
        rfl

theorem Greeted.command_eq {options : OpenOptions} {log : List Dealing} {n : Nat}
    {identity : DeviceHello} (greeted : Greeted options log n identity) {number : Nat}
    {sent : Command} {answer : Except TransportError Response}
    (member : .requested number sent answer ∈ log) : sent = .hello Protocol.version := by
  obtain ⟨greetings, _⟩ := greeted
  rcases List.mem_append.mp member with early | last
  · exact greetings.command_eq early
  · simp only [List.mem_cons, reduceCtorEq, List.not_mem_nil, false_or, or_false] at last
    cases last
    rfl

variable {options : OpenOptions} {task : Task} {log before after : List Dealing} {number : Nat}
  {command : Command} {answer : Except TransportError Response}

theorem Greeted.restart_eq {n : Nat} {identity : DeviceHello} {sent : Command}
    {reply : Except TransportError Response} (greeted : Greeted options log n identity)
    (split : log ++ [.requested n sent reply, .closed n] =
      before ++ .requested number command answer :: after)
    (restarts : command.restarts = true) :
    before = log ∧ number = n ∧ command = sent ∧ after = [.closed n] := by
  rcases List.append_eq_append_iff.mp split with ⟨more, rfl, tail⟩ | ⟨more, rfl, tail⟩
  · cases more with
    | nil =>
        cases tail
        exact ⟨List.append_nil log, rfl, rfl, rfl⟩
    | cons first more =>
        obtain ⟨_, tail⟩ := List.cons.inj tail
        cases more with
        | nil => cases tail
        | cons second more =>
            obtain ⟨_, tail⟩ := List.cons.inj tail
            exact absurd tail.symm (List.append_ne_nil_of_right_ne_nil _ (List.cons_ne_nil _ _))
  · cases more with
    | nil =>
        cases tail
        exact ⟨(List.append_nil before).symm, rfl, rfl, rfl⟩
    | cons first more =>
        obtain ⟨rfl, _⟩ := List.cons.inj tail
        cases greeted.command_eq (List.mem_append_right before List.mem_cons_self)
        cases restarts

theorem Greeted.closed_restarts {n : Nat} {identity : DeviceHello}
    (greeted : Greeted options log n identity)
    (member : .requested number command answer ∈ log ++ [.closed n]) : command.restarts = false := by
  rcases List.mem_append.mp member with early | last
  · cases greeted.command_eq early
    rfl
  · cases List.mem_singleton.mp last

theorem Conduct.restarts_warranted (conduct : Conduct options task log)
    (split : log = before ++ .requested number command answer :: after)
    (restarts : command.restarts = true) : Warranted options task before number command after := by
  have member : .requested number command answer ∈ log := by
    rw [split]
    exact List.mem_append_right _ List.mem_cons_self
  cases conduct with
  | list => cases member
  | showBlacklist => cases member
  | clearBlacklist => cases member
  | ping visits =>
      cases visits.command_eq member
      cases restarts
  | unconnected _ greetings =>
      cases greetings.command_eq member
      cases restarts
  | status greeted =>
      rw [greeted.closed_restarts member] at restarts
      cases restarts
  | reset greeted =>
      obtain ⟨rfl, rfl, rfl, rfl⟩ := greeted.restart_eq split restarts
      exact ⟨⟨_, greeted, .inl ⟨rfl, rfl⟩⟩, rfl⟩
  | bootloader greeted normal =>
      obtain ⟨rfl, rfl, rfl, rfl⟩ := greeted.restart_eq split restarts
      exact ⟨⟨_, greeted, .inr ⟨rfl, rfl, normal⟩⟩, rfl⟩
  | spared greeted =>
      rw [greeted.closed_restarts member] at restarts
      cases restarts

/-! ### Connecting -/

namespace Session

theorem readHello_cases (address : Address) (options : OpenOptions)
    (answer : Except TransportError Response) :
    (∃ identity info, answer = .ok (.hello identity) ∧ Welcome options identity ∧
        info.mode = identity.mode ∧ readHello address options answer = .ok info) ∨
      InVain options answer ∧ ∃ e, readHello address options answer = .error e := by
  rcases answer with e | ⟨identity⟩ | _ | _
  · refine .inr ⟨?_, e, rfl⟩
    rintro _ ⟨⟩
  · simp only [readHello]
    cases allowed : checkProtocol identity.protocolVersion options with
    | ok => exact .inl ⟨identity, _, rfl, checkProtocol_eq_ok.mp allowed, rfl, rfl⟩
    | error e =>
        refine .inr ⟨?_, e, rfl⟩
        rintro _ ⟨⟩ welcome
        rw [checkProtocol_eq_ok.mpr welcome] at allowed
        cases allowed
  · refine .inr ⟨?_, _, rfl⟩
    rintro _ ⟨⟩
  · refine .inr ⟨?_, _, rfl⟩
    rintro _ ⟨⟩

def Entered (options : OpenOptions) (info : ConnectionInfo) (s : Session (Nat × ℓ))
    (log : List Dealing) : Prop :=
  ∃ number link identity, Greeted options log number identity ∧ info.mode = identity.mode ∧
    s = ⟨.ofMode info.mode, some (number, link), some info⟩

theorem connect_greets (host : Host σ ℓ) (address : Address) (options : OpenOptions)
    (w : σ) {log : List Dealing} (greetings : Greetings options log) :
    match start.connect host.numbered address options (w, log) with
    | (.ok info, s, w) => s.Entered options info w.2
    | (.error _, s, w) => s = start ∧ Greetings options w.2 := by
  rw [connect_start, handshake, Host.numbered_openLink]
  rcases host.openLink address w with ⟨e | link, w⟩
  · exact ⟨rfl, .unopened greetings⟩
  · simp only [Except.map, failure?, Host.numbered_request, Host.numbered_close, List.append_assoc]
    generalize host.request link (.hello Protocol.version) w = reply
    obtain ⟨answer, link, w⟩ := reply
    rcases readHello_cases address options answer with
      ⟨identity, info, rfl, welcome, mode, read⟩ | ⟨inVain, e, read⟩
    · rw [read]
      exact ⟨log.length, link, identity, .last greetings welcome, mode, rfl⟩
    · rw [read]
      exact ⟨rfl, .sent greetings inVain⟩

end Session

theorem keeps_greetings (host : Host σ ℓ) {progress : ProgressCallback (σ × List Dealing)}
    (silent : ∀ round total w, (progress round total w).2 = w) (options : OpenOptions)
    (eligible : Address → Prop) :
    Keeps host.numbered progress options eligible
      (fun s w => s = .start ∧ Greetings options w.2)
      (fun info s w => s.Entered options info w.2) where
  listed _ trying := trying
  asked round trying := (silent round none _).symm ▸ trying
  waited _ trying := trying
  failed {s w a e s' w'} _ trying failed := by
    obtain ⟨rfl, greetings⟩ := trying
    have greeted := Session.connect_greets host a options w.1 greetings
    rw [failed] at greeted
    exact greeted
  connected {s w a info s' w'} _ trying connected := by
    obtain ⟨rfl, greetings⟩ := trying
    have greeted := Session.connect_greets host a options w.1 greetings
    rw [connected] at greeted
    exact greeted

namespace Coordinator

theorem connectWithin_greets (host : Host σ ℓ) (device : String) (config : ConnectConfig)
    {c : Coordinator (Nat × ℓ)} (idle : c.session = .start) (w : σ) :
    match c.connectWithin host.numbered device config (w, []) with
    | (.ok connected, c', w) => c'.session.Entered c.options connected.info w.2
    | (.error _, c', w) => c'.session = .start ∧ Greetings c.options w.2 := by
  have begun : c.session = .start ∧ Greetings c.options [] := ⟨idle, .none⟩
  unfold connectWithin connect
  cases Address.parse device with
  | error e => exact begun
  | ok spec =>
      have silent : ∀ round total w', (deadline host.numbered (host.numbered.now (w, []))
          config.waitSecs round total w').2 = w' := by
        intro round total w'
        cases config.waitSecs <;> rfl
      have ends := connectTo_keeps spec (keeps_greetings host silent c.options _) config.policy
        (w := (w, [])) begun
      revert ends
      dsimp only
      rcases c.connectTo host.numbered spec config.policy _ (w, []) with ⟨e | connected, c, w⟩
      · exact id
      · exact id

/-- What is open is closed, and then the dealings are those of the task. -/
def Concludes (host : Host σ ℓ) (options : OpenOptions) (task : Task) (c : Coordinator (Nat × ℓ))
    (w : σ × List Dealing) : Prop :=
  Conduct options task (c.disconnect host.numbered w).2.2

theorem concludes_of_start {host : Host σ ℓ} {options : OpenOptions} {task : Task}
    {c : Coordinator (Nat × ℓ)} (idle : c.session = .start) {w : σ × List Dealing}
    (conduct : Conduct options task w.2) : Concludes host options task c w := by
  unfold Concludes disconnect
  rw [idle]
  exact conduct

theorem concludes_of_open {host : Host σ ℓ} {options : OpenOptions} {task : Task}
    {c : Coordinator (Nat × ℓ)} {info : ConnectionInfo} {number : Nat} {link : ℓ}
    (entered : c.session = ⟨.ofMode info.mode, some (number, link), some info⟩)
    {w : σ × List Dealing} (conduct : Conduct options task (w.2 ++ [.closed number])) :
    Concludes host options task c w := by
  unfold Concludes disconnect
  rw [entered, Session.close_connected]
  exact conduct

theorem runStatus_concludes (host : Host σ ℓ) (device : String) (config : ConnectConfig)
    {c : Coordinator (Nat × ℓ)} (idle : c.session = .start) (w : σ) :
    let run := c.runStatus host.numbered device config (w, [])
    Concludes host c.options .status run.2.1 run.2.2 := by
  have greeted := connectWithin_greets host device config idle w
  unfold runStatus
  generalize c.connectWithin host.numbered device config (w, []) = done at greeted
  rcases done with ⟨e | connected, c', w⟩
  · exact concludes_of_start greeted.1 (.unconnected (.inl rfl) greeted.2)
  · obtain ⟨number, link, identity, greeted, mode, entered⟩ := greeted
    have closed := Session.close_connected host.numbered w (number, link) connected.info
    dsimp only [disconnect]
    rw [entered, closed]
    exact concludes_of_start rfl (.status greeted)

theorem modeTransition_concludes (host : Host σ ℓ) (command : Command) {options : OpenOptions}
    {task : Task} {info : ConnectionInfo} {number : Nat} {link : ℓ} {c : Coordinator (Nat × ℓ)}
    (entered : c.session = ⟨.ofMode info.mode, some (number, link), some info⟩)
    (w : σ) {log : List Dealing}
    (conduct : ∀ answer, Conduct options task
      (log ++ [.requested number command answer, .closed number])) :
    let run := c.session.modeTransition host.numbered command (w, log)
    Concludes host options task { c with session := run.2.1 } run.2.2 := by
  rw [entered, Session.modeTransition_connected, Host.numbered_request]
  generalize host.request link command w = reply
  obtain ⟨answer, link, w⟩ := reply
  have closed := conduct answer
  rw [List.append_cons] at closed
  rcases answer with e | ⟨_⟩ | _ | _ | _ | _
  · exact concludes_of_start rfl closed
  · exact concludes_of_open rfl closed
  · exact concludes_of_open rfl closed
  · exact concludes_of_start rfl closed
  · exact concludes_of_open rfl closed
  · exact concludes_of_open rfl closed

theorem runReset_concludes (host : Host σ ℓ) (device : String) (config : ConnectConfig)
    {c : Coordinator (Nat × ℓ)} (idle : c.session = .start) (w : σ) :
    let run := c.runReset host.numbered device config (w, [])
    Concludes host c.options .reset run.2.1 run.2.2 := by
  have greeted := connectWithin_greets host device config idle w
  unfold runReset
  generalize c.connectWithin host.numbered device config (w, []) = done at greeted
  rcases done with ⟨e | connected, c', w⟩
  · exact concludes_of_start greeted.1 (.unconnected (.inr (.inl rfl)) greeted.2)
  · obtain ⟨number, link, identity, greeted, mode, entered⟩ := greeted
    have reset := modeTransition_concludes host .reset entered w.1 fun _ =>
      .reset greeted
    revert reset
    dsimp only [Coordinator.reset, Session.reset]
    rcases c'.session.modeTransition host.numbered .reset w with ⟨e | ⟨⟩, s, w⟩
    · exact id
    · exact id

theorem runBootloader_concludes (host : Host σ ℓ) (device : String) (config : ConnectConfig)
    {c : Coordinator (Nat × ℓ)} (idle : c.session = .start) (w : σ) :
    let run := c.runBootloader host.numbered device config (w, [])
    Concludes host c.options .bootloader run.2.1 run.2.2 := by
  have greeted := connectWithin_greets host device config idle w
  unfold runBootloader
  generalize c.connectWithin host.numbered device config (w, []) = done at greeted
  rcases done with ⟨e | connected, c', w⟩
  · exact concludes_of_start greeted.1 (.unconnected (.inr (.inr rfl)) greeted.2)
  · obtain ⟨number, link, identity, greeted, mode, entered⟩ := greeted
    dsimp only
    cases found : connected.info.mode with
    | bootloader =>
        have already : connected.info.isBootloader = true := decide_eq_true found
        have closed := Session.close_connected host.numbered w (number, link) connected.info
        rw [if_pos already]
        dsimp only [disconnect]
        rw [entered, closed]
        exact concludes_of_start rfl (.spared greeted (mode ▸ found))
    | normal =>
        have waiting : ¬connected.info.isBootloader = true := by
          rw [ConnectionInfo.isBootloader, found]
          decide
        rw [if_neg waiting]
        have reset := modeTransition_concludes host .resetToBootloader entered w.1 fun _ =>
          .bootloader greeted (mode ▸ found)
        revert reset
        dsimp only [Coordinator.resetToBootloader, Session.resetToBootloader]
        rcases c'.session.modeTransition host.numbered .resetToBootloader w with ⟨e | ⟨⟩, s, w⟩
        · exact id
        · exact id

/-! ### Sweeping -/

theorem probe_visits (host : Host σ ℓ) (address : Address) (w : σ) {log : List Dealing}
    (visits : Visits .ping (fun _ => True) log) :
    Visits .ping (fun _ => True) (host.numbered.probe address (w, log)).2.2 := by
  rw [Host.probe, Host.numbered_openLink]
  rcases host.openLink address w with ⟨e | link, w⟩
  · exact .unopened visits
  · simp only [Except.map, failure?, Host.numbered_request, Host.numbered_close, List.append_assoc]
    exact .sent visits trivial

theorem sweep_visits (host : Host σ ℓ) (disk : Disk φ) (quarantining : Bool) (found : List Address)
    (b : Blacklist) (w : σ × List Dealing) (files : φ) (visits : Visits .ping (fun _ => True) w.2) :
    Visits .ping (fun _ => True)
      (sweep host.numbered disk quarantining found b w files).2.2.1.2 := by
  induction found generalizing b w files with
  | nil => exact visits
  | cons candidate rest ih =>
      have probed := probe_visits host candidate w.1 visits
      unfold sweep
      split
      · exact ih b w files visits
      · exact ih _ _ _ probed

/-! ### Command lines -/

theorem perform_concludes (host : Host σ ℓ) (disk : Disk φ) (device : String)
    (config : ConnectConfig) (task : Task) {c : Coordinator (Nat × ℓ)} (idle : c.session = .start)
    (w : σ) (files : φ) :
    let run := c.perform host.numbered disk device config task (w, []) files
    Concludes host c.options task run.2.1 run.2.2.1 := by
  cases task with
  | list =>
      dsimp only [perform, runList]
      cases Address.parse device with
      | error e => exact concludes_of_start idle .list
      | ok spec => exact concludes_of_start idle .list
  | ping quarantining transport =>
      exact concludes_of_start idle (.ping (sweep_visits host disk quarantining _ _ _ files .none))
  | status => exact runStatus_concludes host device config idle w
  | reset => exact runReset_concludes host device config idle w
  | bootloader => exact runBootloader_concludes host device config idle w
  | showBlacklist => exact concludes_of_start idle .showBlacklist
  | clearBlacklist =>
      dsimp only [perform, runClear]
      rcases c.blacklist.clear disk files with ⟨e | ⟨⟩, b, files⟩
      · exact concludes_of_start idle .clearBlacklist
      · exact concludes_of_start idle .clearBlacklist

end Coordinator

def RestartsWarranted (options : OpenOptions) (task : Task) (log : List Dealing) : Prop :=
  ∀ before number command answer after, log = before ++ .requested number command answer :: after →
    command.restarts = true → Warranted options task before number command after

/-- Whatever the hardware does, a command line deals with devices as its task may, and restarts none
but the one that its last greeting found welcome. -/
theorem runs_deal_by_task (host : Host σ ℓ) (disk : Disk φ) (line : CommandLine) (w : σ) (files : φ) :
    let run := line.run host.numbered disk (w, []) files
    (match (line.prepare disk files :
        Except TaskFailure (Coordinator (Nat × ℓ) × ConnectConfig)) with
      | .error _ => run.2.1.2 = []
      | .ok (_, config) => Conduct config.options line.task run.2.1.2 ∧
        RestartsWarranted config.options line.task run.2.1.2) ∧
      line.run host disk w files = (run.1, run.2.1.1, run.2.2) := by
  refine ⟨?_, CommandLine.run_simulated host.numbered_simulates (fun _ => rfl) disk line (w, []) files⟩
  unfold CommandLine.run
  cases prepared : (line.prepare disk files :
      Except TaskFailure (Coordinator (Nat × ℓ) × ConnectConfig)) with
  | error e => rfl
  | ok ready =>
      obtain ⟨c, config⟩ := ready
      obtain ⟨_, b, _, _, rfl⟩ := CommandLine.eq_start_of_prepare prepared
      have conduct := Coordinator.perform_concludes host disk line.device config line.task
        (c := .start b config.options) rfl w files
      exact ⟨conduct, fun before number command answer after split restarts =>
        conduct.restarts_warranted split restarts⟩

end DeviceConnect
