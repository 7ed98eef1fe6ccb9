import DeviceConnect.Disk.Basic
import DeviceConnect.Disk.Path

/-! A file tree in memory. Its entries are found by the names that lead to them; the working
directory is the root, and nothing lies above it. -/
namespace DeviceConnect

inductive FileEntry where
  | file (bytes : ByteArray)
  | directory

structure FileTree where
  entries : List (List String × FileEntry)

namespace FileTree

def empty : FileTree := ⟨[]⟩

def find? (tree : FileTree) (place : List String) : Option FileEntry :=
  if place = [] then some .directory else tree.entries.lookup place

def erase (tree : FileTree) (place : List String) : FileTree :=
  ⟨tree.entries.filter fun (p, _) => !place.isPrefixOf p⟩

def set (tree : FileTree) (place : List String) (entry : FileEntry) : FileTree :=
  ⟨(place, entry) :: (tree.erase place).entries⟩

def maxName : Nat := 255
def maxPath : Nat := 4095

/-- Follows names from a place. All but the last must lead through directories. -/
def walk (tree : FileTree) (place : List String) : List String → Except FileError (List String)
  | [] => .ok place
  | name :: rest => match tree.find? place with
    | none => .error .notFound
    | some (.file _) => .error .notADirectory
    | some .directory =>
      if maxName < name.utf8ByteSize then .error .nameTooLong
      else if name = "" || name = "." then walk tree place rest
      else if name = ".." then walk tree place.dropLast rest
      else walk tree (place ++ [name]) rest

def follow (tree : FileTree) (path : String) (names : List String) :
    Except FileError (List String) :=
  if path.toList.contains '\x00' then .error .nulInName
  else if path = "" then .error .notFound
  else if maxPath < path.utf8ByteSize then .error .nameTooLong
  else walk tree [] names

def resolve (tree : FileTree) (path : String) : Except FileError (List String) :=
  tree.follow path (Path.parts path)

def isDirectory (tree : FileTree) (path : String) : Bool :=
  match tree.resolve path with
  | .ok place => match tree.find? place with
    | some .directory => true
    | _ => false
  | .error _ => false

def isFile (tree : FileTree) (path : String) : Bool :=
  match tree.resolve path with
  | .ok place => match tree.find? place with
    | some (.file _) => true
    | _ => false
  | .error _ => false

def read (path : String) (tree : FileTree) : Except FileError ByteArray :=
  match tree.resolve path with
  | .error e => .error e
  | .ok place => match tree.find? place with
    | none => .error .notFound
    | some .directory => .error .isADirectory
    | some (.file bytes) => .ok bytes

def namesUnslashed (path : String) : List String :=
  Path.parts (String.ofList (Path.dropLastWhile (· = '/') path.toList))

/-- Writes bytes to a file. A path that ends in a slash names no file: its last name is not looked
at, but those before it must lead to a directory. -/
def writeBytes (path : String) (bytes : ByteArray) (tree : FileTree) :
    Except FileError Unit × FileTree :=
  if path.toList.getLast? = some '/' then
    match tree.follow path ((namesUnslashed path).dropLast ++ ["."]) with
    | .error e => (.error e, tree)
    | .ok _ => (.error .isADirectory, tree)
  else match tree.resolve path with
    | .error e => (.error e, tree)
    | .ok place => match tree.find? place with
      | some .directory => (.error .isADirectory, tree)
      | _ => (.ok (), tree.set place (.file bytes))

def createDir (path : String) (tree : FileTree) : Except FileError Unit × FileTree :=
  match tree.follow path (namesUnslashed path) with
  | .error e => (.error e, tree)
  | .ok place => match tree.find? place with
    | some _ => (.error .alreadyExists, tree)
    | none => (.ok (), tree.set place .directory)

/-- Creates the first directory of a chain, after those behind it if it lacks its parent. -/
def createChain : List String → FileTree → Except FileError Unit × FileTree
  | [], tree => (.error .notFound, tree)
  | path :: above, tree =>
    if path = "" then (.ok (), tree)
    else match createDir path tree with
      | (.ok (), tree) => (.ok (), tree)
      | (.error .notFound, tree) => match createChain above tree with
        | (.error e, tree) => (.error e, tree)
        | (.ok (), tree) => match createDir path tree with
          | (.ok (), tree) => (.ok (), tree)
          | (.error e, tree) => if tree.isDirectory path then (.ok (), tree) else (.error e, tree)
      | (.error e, tree) => if tree.isDirectory path then (.ok (), tree) else (.error e, tree)

def createDirs (path : String) (tree : FileTree) : Except FileError Unit × FileTree :=
  createChain (Path.ancestors path) tree

def removeFile (path : String) (tree : FileTree) : FileTree :=
  match tree.resolve path with
  | .ok place => if tree.isFile path then tree.erase place else tree
  | .error _ => tree

def removeDirAll (path : String) (tree : FileTree) : FileTree :=
  match tree.resolve path with
  | .ok place => if tree.isDirectory path then tree.erase place else tree
  | .error _ => tree

/-- Removes a directory that holds nothing. One whose last name is a dot stays. -/
def removeDir (path : String) (tree : FileTree) : FileTree :=
  let holdsNothing (place : List String) :=
    tree.entries.all fun (p, _) => p = place || !place.isPrefixOf p
  match tree.resolve path with
  | .ok place =>
    if tree.isDirectory path && (namesUnslashed path).getLast? ≠ some "." && holdsNothing place then
      tree.erase place
    else tree
  | .error _ => tree

end FileTree

def treeDisk : Disk FileTree where
  read := FileTree.read
  createDirs := FileTree.createDirs
  write path text tree := FileTree.writeBytes path text.toByteArray tree

end DeviceConnect
