import DeviceConnect.CommandLine.Given

/-! Reading a command line. Its words go through levels: the top, and one for each word that
names a task or a group of tasks. Options may stand at any level. An option's value is checked
when the next known option or the end of its level comes, so a word that nobody knows is
reported before an earlier value is looked at. -/
namespace DeviceConnect

inductive Level where
  | top
  | list
  | ping
  | status
  | reset
  | bootloader
  | blacklist
  | showBlacklist
  | clearBlacklist
  deriving DecidableEq

namespace Level

def words : Level → List (String × Level)
  | top => [("list", list), ("ping", ping), ("status", status), ("reset", reset),
    ("bootloader", bootloader), ("blacklist", blacklist)]
  | blacklist => [("show", showBlacklist), ("clear", clearBlacklist)]
  | _ => []

def branches (level : Level) : Bool := !level.words.isEmpty

/-- The task of a level at which a command line may end. -/
def task? (given : Given) : Level → Option Task
  | list => some .list
  | ping => some (.ping given.quarantine given.transport)
  | status => some .status
  | reset => some .reset
  | bootloader => some .bootloader
  | showBlacklist => some .showBlacklist
  | clearBlacklist => some .clearBlacklist
  | top | blacklist => none

def helpWord : String := "help"

/-- Whether a word means something at a level that awaits a word. -/
def knows (level : Level) (word : String) : Bool :=
  level.branches && (word = helpWord || (level.words.lookup word).isSome)

def surplus (level : Level) : Rejection := if level.branches then .unknownTask else .unknownArgument

def helpOn : Level → List String → Rejection
  | _, [] => .helpAsked
  | level, word :: rest =>
    match level.words.lookup word with
    | some inner => inner.helpOn rest
    | none => if level.branches && word = helpWord && rest.isEmpty then .helpAsked else .unknownTask

end Level

inductive OptionKind where
  | field (field : Field)
  | switch (switch : Switch)
  deriving DecidableEq

def Level.options (level : Level) : List (String × OptionKind) :=
  [("device", .field .device), ("retries", .field .retries), ("delay-ms", .field .delayMs),
    ("legacy", .switch .legacy), ("wait", .field .wait), ("workspace", .field .workspace),
    ("verbose", .switch .verbose), ("help", .switch .help)] ++
  if level = .ping then [("quarantine", .switch .quarantine), ("transport", .field .transport)]
  else []

def letterOption? : Char → Option OptionKind
  | 'd' => some (.field .device)
  | 'v' => some (.switch .verbose)
  | 'h' => some (.switch .help)
  | _ => none

/-- What a word looks like. A lone dash is plain. -/
inductive Word where
  | separator
  | long (name : String) (value : Option String)
  | letters (cluster : List Char)
  | plain (text : String)
  deriving DecidableEq

def Word.ofText (text : String) : Word :=
  match text.toList with
  | ['-', '-'] => .separator
  | '-' :: '-' :: rest =>
    let value := match rest.dropWhile (· ≠ '=') with
      | [] => none
      | _ :: value => some (String.ofList value)
    .long (String.ofList (rest.takeWhile (· ≠ '='))) value
  | '-' :: c :: rest => .letters (c :: rest)
  | _ => .plain text

/-- A field whose value is awaited, or there and not yet checked. -/
structure Pending where
  field : Field
  value : Option String
  deriving DecidableEq

structure Reading where
  given : Given
  pending : Option Pending
  deriving DecidableEq

namespace Reading

def start : Reading := ⟨.nothing, none⟩

def settle (r : Reading) : Except Rejection Given :=
  match r.pending with
  | none => .ok r.given
  | some ⟨_, none⟩ => .error .missingValue
  | some ⟨field, some text⟩ => r.given.put field text

def awaited? (r : Reading) : Option Field :=
  match r.pending with
  | some ⟨field, none⟩ => some field
  | _ => none

def await (field : Field) (r : Reading) : Except Rejection Reading := do
  let given ← r.settle
  return ⟨given, some ⟨field, none⟩⟩

def supply (field : Field) (text : String) (r : Reading) : Reading :=
  { r with pending := some ⟨field, some text⟩ }

def attach (field : Field) (text : String) (r : Reading) : Except Rejection Reading := do
  let given ← r.settle
  let given ← given.put field text
  return ⟨given, none⟩

def turnOn (switch : Switch) (r : Reading) : Except Rejection Reading := do
  let given ← r.settle
  let given ← given.turnOn switch
  return ⟨given, none⟩

def readLong (level : Level) (name : String) (value : Option String) (r : Reading) :
    Except Rejection Reading :=
  match level.options.lookup name, value with
  | none, _ => .error .unknownArgument
  | some (.field field), some text => r.attach field text
  | some (.field field), none => r.await field
  | some (.switch _), some _ => .error .unexpectedValue
  | some (.switch switch), none => r.turnOn switch

/-- A field takes what is left of its cluster, less a leading equals sign, as its value. -/
def readLetters : List Char → Reading → Except Rejection Reading
  | [], r => .ok r
  | c :: rest, r =>
    match letterOption? c, rest with
    | none, _ => .error .unknownArgument
    | some (.switch switch), rest => do
      let r ← r.turnOn switch
      readLetters rest r
    | some (.field field), [] => r.await field
    | some (.field field), '=' :: value => r.attach field (String.ofList value)
    | some (.field field), value => r.attach field (String.ofList value)

def finish (level : Level) (r : Reading) : Except Rejection (Given × Task) := do
  let given ← r.settle
  match level.task? given with
  | some task => return (given, task)
  | none => throw (if given = .nothing then .nothingGiven else .missingTask)

/-- Behind the separator every word is one too many. -/
def finishSeparated (level : Level) (r : Reading) : List String → Except Rejection (Given × Task)
  | [] => r.finish level
  | word :: _ => .error (if level.knows word then .unknownArgument else level.surplus)

end Reading

/-- Reads a level and those inside it. An inner level is read to its end before what is pending
outside it is checked. -/
def Level.read : Level → Reading → List String → Except Rejection (Given × Task)
  | level, r, [] => r.finish level
  | level, r, text :: rest =>
    match Word.ofText text with
    | .separator => r.finishSeparated level rest
    | .long name value => do
      let r ← r.readLong level name value
      level.read r rest
    | .letters cluster => do
      let r ← r.readLetters cluster
      level.read r rest
    | .plain word =>
      match r.awaited? with
      | some field => level.read (r.supply field word) rest
      | none =>
        if level.branches && word = helpWord then .error (level.helpOn rest)
        else match level.words.lookup word with
          | none => .error level.surplus
          | some inner => do
            let (given, task) ← inner.read .start rest
            let outer ← r.settle
            return (outer.under given, task)

def CommandLine.parse (args : List String) : Except Rejection CommandLine := do
  let (given, task) ← Level.top.read .start args
  return given.commandLine task

end DeviceConnect
