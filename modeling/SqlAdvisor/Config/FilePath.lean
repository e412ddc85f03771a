/-! # Paths

A path is read part by part: repeated slashes and parts that are a single dot say nothing, while two dots
lead up and are kept, since whether they can be followed depends on the files.
-/

namespace SqlAdvisor

/-- A path: the slashes it starts from, and the names on the way. -/
structure FilePath where
  root : String := ""
  parts : List String
  deriving DecidableEq

namespace FilePath

/-- The pieces of a text between slashes. -/
def pieces : List Char → List (List Char)
  | [] => [[]]
  | c :: rest =>
    if c = '/' then [] :: pieces rest
    else match pieces rest with
      | first :: others => (c :: first) :: others
      | [] => [[c]]

/-- The root of a written path. Exactly two slashes at the start are a root of their own. -/
def rootOf : List Char → String
  | '/' :: '/' :: '/' :: _ => "/"
  | '/' :: '/' :: _ => "//"
  | '/' :: _ => "/"
  | _ => ""

def ofText (s : String) : FilePath where
  root := rootOf s.toList
  parts := ((pieces s.toList).map String.ofList).filter fun part => part ≠ "" && part ≠ "."

def display (path : FilePath) : String :=
  if path.root.isEmpty && path.parts.isEmpty then "." else path.root ++ "/".intercalate path.parts

def child (path : FilePath) (name : String) : FilePath := { path with parts := path.parts ++ [name] }

def parent (path : FilePath) : FilePath := { path with parts := path.parts.dropLast }

/-- The start of the path: its root, or the working directory. -/
def start (path : FilePath) : FilePath := { path with parts := [] }

/-- The paths on the way, from the first name to the last. -/
def stages (path : FilePath) : List FilePath :=
  (List.range path.parts.length).map fun length => { path with parts := path.parts.take (length + 1) }

/-! ## Direct paths

A direct path steps up only at its start, from the working directory. No other direct path leads to the same
place, as long as there are no links.
-/

/-- The direct path of the directory above a direct path. A root is above itself. -/
def above (path : FilePath) : FilePath :=
  match path.parts.getLast? with
  | none => if path.root.isEmpty then path.child ".." else path
  | some name => if name = ".." then path.child ".." else path.parent

/-- The direct path of a name in the directory at a direct path, or of the directory above it. -/
def follow (path : FilePath) (name : String) : FilePath :=
  if name = ".." then path.above else path.child name

/-- The direct path that leads to the same place. -/
def direct (path : FilePath) : FilePath := path.parts.foldl follow path.start

/-- The direct path that leads to the same place from a root, if the working directory has the given path. -/
def absolute (path directory : FilePath) : FilePath :=
  if path.root.isEmpty then { directory with parts := directory.parts ++ path.parts }.direct
  else path.direct

/-- Whether a direct path stays below the working directory. -/
def isInside (path : FilePath) : Bool := path.root.isEmpty && path.parts.head? ≠ some ".."

/-! ## Limits -/

def nameLimit : Nat := 255

/-- The most bytes of a path's text. -/
def textLimit : Nat := 4095

def isTooLong (path : FilePath) : Bool := textLimit < path.display.utf8ByteSize

/-- Whether the text of the path has a null character, at which it would end. -/
def hasNull (path : FilePath) : Bool := path.display.toList.contains '\x00'

end FilePath

end SqlAdvisor
