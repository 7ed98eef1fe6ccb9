import DeviceConnect.Text.Split

/-! Paths as text, with names between slashes. Nothing here looks at a disk. -/
namespace DeviceConnect.Path

def join (base rest : String) : String :=
  if base = "" || base.toList.getLast? = some '/' then base ++ rest else base ++ "/" ++ rest

def parts (path : String) : List String := (Text.split '/' path.toList).map String.ofList

/-- Whether a part names something: an empty part does not, and a dot only at the front. -/
def isName : Nat × String → Bool
  | (index, part) => part ≠ "" && (part ≠ "." || index = 0)

def dropLastWhile {α} (p : α → Bool) (xs : List α) : List α := (xs.reverse.dropWhile p).reverse

/-- The path without its last name, or `none` if it has no name. -/
def parent? (path : String) : Option String :=
  let named := (parts path).zipIdx.map fun (part, index) => (index, part)
  match dropLastWhile (fun part => !isName part) named with
  | [] => none
  | upTo => match dropLastWhile (fun part => !isName part) upTo.dropLast with
    | [] => some (if path.toList.head? = some '/' then "/" else "")
    | above => some ("/".intercalate (above.map (·.2)))

def ancestorsWithin : Nat → String → List String
  | 0, path => [path]
  | fuel + 1, path => path :: match parent? path with
    | some above => ancestorsWithin fuel above
    | none => []

def ancestors (path : String) : List String := ancestorsWithin path.length path

end DeviceConnect.Path
