import DeviceConnect.Settings

/-! The addresses that failed to respond, by their canonical text. Entries are added or the
whole list is replaced; none is removed alone. -/
namespace DeviceConnect

/-- The entries, and the settings they are saved in, if any. -/
structure Blacklist where
  entries : List String
  store : Option Settings

namespace Blacklist

variable {φ : Type}

/-- Puts an entry behind the others, unless it is there. -/
def insertNew (entries : List String) (entry : String) : List String :=
  if entry ∈ entries then entries else entries ++ [entry]

def distinct (entries : List String) : List String := entries.foldl insertNew []

def load (store : Settings) : Except SettingsError Blacklist :=
  match store.get Json.asStrings Settings.blacklistKey with
  | .error e => .error e
  | .ok stored => .ok ⟨distinct (stored.getD []), some store⟩

def inMemory (entries : List String) : Blacklist := ⟨distinct entries, none⟩

def contains (b : Blacklist) (entry : String) : Bool := entry ∈ b.entries

def snapshot (b : Blacklist) : List String := b.entries
def length (b : Blacklist) : Nat := b.entries.length
def isEmpty (b : Blacklist) : Bool := b.entries.isEmpty

/-- Saves a list of entries, then adopts it. After a failed save the entries are as before. -/
def commit (disk : Disk φ) (entries : List String) (b : Blacklist) (files : φ) :
    Except SettingsError Unit × Blacklist × φ :=
  match b.store with
  | none => (.ok (), { b with entries }, files)
  | some store =>
    let store := store.set Settings.blacklistKey (.arr (entries.map .str))
    match store.save disk files with
    | (.ok (), files) => (.ok (), ⟨entries, some store⟩, files)
    | (.error e, files) => (.error e, { b with store := some store }, files)

/-- Adds an entry and saves; `false` if it was there already. -/
def add (disk : Disk φ) (entry : String) (b : Blacklist) (files : φ) :
    Except SettingsError Bool × Blacklist × φ :=
  if b.contains entry then (.ok false, b, files)
  else match b.commit disk (b.entries ++ [entry]) files with
    | (.ok (), b, files) => (.ok true, b, files)
    | (.error e, b, files) => (.error e, b, files)

/-- Replaces the whole list and saves; duplicates are dropped. -/
def replace (disk : Disk φ) (entries : List String) (b : Blacklist) (files : φ) :
    Except SettingsError Unit × Blacklist × φ :=
  b.commit disk (distinct entries) files

def clear (disk : Disk φ) (b : Blacklist) (files : φ) : Except SettingsError Unit × Blacklist × φ :=
  b.replace disk [] files

end Blacklist
end DeviceConnect
