import SqlAdvisor.Config.FilePath
import SqlAdvisor.Datum
import SqlAdvisor.Fault

/-! # Files

A file tree is what is known of the files, by their direct paths. A path is followed name by name through
directories; the first step that fails decides why it leads nowhere. Making a directory makes what is missing
on the way to it, so that a later step up can be followed.
-/

namespace SqlAdvisor

/-- What stands at a path. -/
inductive FileContent where
  | directory
  | text (content : String)
  /-- A file of structured data, known by what it holds. -/
  | document (value : Datum)

def FileContent.isFile : FileContent → Bool
  | directory => false
  | _ => true

/-- Why a path leads nowhere. -/
inductive PathFault where
  /-- Nothing stands there, or on the way. -/
  | missing
  /-- A file stands on the way. -/
  | throughFile
  /-- A name or the whole path is too long. -/
  | tooLong
  /-- The path has a null character. -/
  | hasNull
  deriving DecidableEq

/-- The fault of a file operation whose path leads nowhere. -/
def PathFault.toFault (path : FilePath) : PathFault → Fault
  | missing => .fileNotFound path.display
  | throughFile => .notDirectory
  | tooLong => .nameTooLong
  | hasNull => .invalid "embedded null byte"

/-- The known files, by their direct paths. Directories on the way to a file need not be listed. -/
structure FileTree where
  entries : List (FilePath × FileContent) := []

namespace FileTree

/-- The listed content at a direct path. -/
def contentAt? (files : FileTree) (path : FilePath) : Option FileContent :=
  (files.entries.find? fun entry => entry.1 = path).map Prod.snd

/-- Whether a direct path leads to a directory: to the working directory, a root or a directory above, to a
    listed one, or to one that a listed file is in. -/
def isDirectoryAt (files : FileTree) (path : FilePath) : Bool :=
  match files.contentAt? path with
  | some content => !content.isFile
  | none =>
    path.parts.all (· = "..") ||
      files.entries.any fun entry =>
        entry.1.root = path.root && path.parts.isPrefixOf entry.1.parts

def existsAt (files : FileTree) (path : FilePath) : Bool :=
  (files.contentAt? path).isSome || files.isDirectoryAt path

/-- Where one more name leads from a direct path. Only a directory leads on. -/
def step (files : FileTree) (here : FilePath) (name : String) : Except PathFault FilePath :=
  if !files.isDirectoryAt here then .error .throughFile
  else if FilePath.nameLimit < name.utf8ByteSize then .error .tooLong
  else
    let next := here.follow name
    if files.existsAt next then .ok next else .error .missing

/-- Refuses a path whose text cannot be used. -/
def checkText (path : FilePath) : Except PathFault Unit :=
  if path.hasNull then .error .hasNull
  else if path.isTooLong then .error .tooLong
  else .ok ()

/-- The direct path of the place to which a path leads. -/
def locate (files : FileTree) (path : FilePath) : Except PathFault FilePath := do
  checkText path
  path.parts.foldlM files.step path.start

/-- What stands at a path, if it leads anywhere. -/
def content (files : FileTree) (path : FilePath) : Except PathFault FileContent := do
  let place ← files.locate path
  return (files.contentAt? place).getD .directory

/-- Whether a path leads anywhere. Of one that is too long this cannot be told. -/
def holds (files : FileTree) (path : FilePath) : Except Fault Bool :=
  match files.locate path with
  | .ok _ => .ok true
  | .error .tooLong => .error .nameTooLong
  | .error _ => .ok false

/-! ## Reading -/

/-- What stands at a path that is read. -/
def read (files : FileTree) (path : FilePath) : Except Fault FileContent :=
  (files.content path).mapError (·.toFault path)

/-! ## Making directories -/

/-- A further step on the way to a directory, which is made if it is missing. -/
def stepOrMake (state : FileTree × FilePath) (name : String) :
    Except PathFault (FileTree × FilePath) :=
  let (files, here) := state
  match files.step here name with
  | .ok next => .ok (files, next)
  | .error .missing =>
    let next := here.follow name
    .ok (⟨(next, .directory) :: files.entries⟩, next)
  | .error fault => .error fault

/-- The files after a directory is made at a path, with those on the way that are missing. A directory that is
    there already stays as it is. -/
def makeDirectory (files : FileTree) (path : FilePath) : Except Fault FileTree := do
  let (made, place) ←
    (do checkText path
        path.parts.foldlM stepOrMake (files, path.start)).mapError (PathFault.toFault path)
  if made.isDirectoryAt place then return made else throw .fileExists

end FileTree

end SqlAdvisor
