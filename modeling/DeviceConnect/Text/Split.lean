/-! The parts of a text between separators. -/
namespace DeviceConnect.Text

/-- There is one part more than separators; a text without one is its only part. -/
def split (sep : Char) : List Char → List (List Char)
  | [] => [[]]
  | c :: rest =>
    if c = sep then [] :: split sep rest
    else match split sep rest with
      | first :: more => (c :: first) :: more
      | [] => [[c]]

end DeviceConnect.Text
