import CyberRange.Text.Blank

namespace CyberRange.Path

/-! Paths as they are typed, and the ways from the root that they stand for. -/

def home : List String := ["home", "operator"]

/-- The components of a path; repeated slashes separate nothing. -/
def components (path : String) : List String :=
  (Text.filledPieces (· == '/') path.toList).map String.ofList

def isAbsolute (path : String) : Bool :=
  path.toList.head? = some '/'

/-- One component applied to a way: `.` stays, `..` goes up and stays at the root. -/
def follow (way : List String) (component : String) : List String :=
  if component = "." then way
  else if component = ".." then way.dropLast
  else way ++ [component]

/-- Where a path starts, and the components to follow from there. -/
def start (current : List String) (path : String) : List String × List String :=
  let steps := components path
  if isAbsolute path then ([], steps)
  else
    match steps with
    | "~" :: rest => (home, rest)
    | _ => (current, steps)

def normalize (current : List String) (path : String) : List String :=
  let (way, steps) := start current path
  steps.foldl follow way

def render (way : List String) : String :=
  "/" ++ String.intercalate "/" way

def split (path : String) : String × String :=
  let (directory, name) := Text.cutLast '/' path.toList
  (if directory.isEmpty then (if isAbsolute path then "/" else ".")
    else String.ofList directory,
    String.ofList name)

def isProper (name : String) : Bool :=
  name ≠ "" && !name.toList.contains '/' && name ≠ "." && name ≠ ".."

end CyberRange.Path
