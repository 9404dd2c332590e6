import CodeIndex.Text.Lines
import CodeIndex.Text.PathName
import CodeIndex.Text.Quoted
import CodeIndex.Text.Utf8

/-!
The files of a project.

Paths are relative to the root of the project. A path is resolved by its components; a path that
leaves the project leads to nothing but directories.
-/

namespace CodeIndex

open CodeIndex.Text

/-- The components of a path that name a file or a directory. -/
abbrev FileName := List (List Char)

def FileName.path (name : FileName) : String :=
  String.ofList (join ['/'] name)

/-- The files with their bytes, in ascending order of their paths, and the directories. -/
structure Files where
  contents : List (String × List UInt8) := []
  directories : List String := []
  deriving DecidableEq, Repr

/-- What a path leads to. -/
inductive FileEntry where
  | missing
  | directory
  | file (bytes : List UInt8)
  deriving DecidableEq, Repr

/-- Why a file cannot be read. -/
inductive ReadFailure where
  | missing (path : String)
  | isDirectory (path : String)
  | undecodable (failure : Utf8.Failure)
  deriving DecidableEq, Repr

def ReadFailure.message : ReadFailure → String
  | .missing path =>
    "[Errno 2] No such file or directory: " ++ String.ofList (quoted path.toList)
  | .isDirectory path => "[Errno 21] Is a directory: " ++ String.ofList (quoted path.toList)
  | .undecodable failure => failure.message

namespace Files

/-- Puts a file into a list in ascending order of paths, in place of one with the same path. -/
def insertOrdered (path : String) (bytes : List UInt8) :
    List (String × List UInt8) → List (String × List UInt8)
  | [] => [(path, bytes)]
  | (first, old) :: rest =>
    if path < first then (path, bytes) :: (first, old) :: rest
    else if path == first then (path, bytes) :: rest
    else (first, old) :: insertOrdered path bytes rest

/-- The directories around a file whose name goes on from a directory, the outermost first. -/
def parentsFrom (outer : FileName) : FileName → List String
  | [] => []
  | [_] => []
  | step :: rest => FileName.path (outer ++ [step]) :: parentsFrom (outer ++ [step]) rest

/-- The directories around a file. -/
def parents (name : FileName) : List String :=
  parentsFrom [] name

def addDirectories (names : List String) (f : Files) : Files :=
  { f with directories := f.directories ++ names.filter fun name => !f.directories.contains name }

/-- Writes a file, with the directories around it. -/
def write (path : String) (bytes : List UInt8) (f : Files) : Files :=
  let name := components path.toList
  addDirectories (parents name)
    { f with contents := insertOrdered (FileName.path name) bytes f.contents }

def remove (path : String) (f : Files) : Files :=
  let path := FileName.path (components path.toList)
  { f with contents := f.contents.filter fun entry => entry.1 != path }

/-- Makes a directory, with the directories around it. -/
def makeDirectory (path : String) (f : Files) : Files :=
  let name := components path.toList
  addDirectories (parents name ++ [FileName.path name]) f

/-- The paths of all files, in ascending order. -/
def paths (f : Files) : List String :=
  f.contents.map Prod.fst

def isDirectory (f : Files) (name : FileName) : Bool :=
  name.isEmpty || f.directories.contains (FileName.path name)

/-- What a name without steps upwards leads to. -/
def entryOf (f : Files) (name : FileName) : FileEntry :=
  match f.contents.lookup (FileName.path name) with
  | some bytes => .file bytes
  | none => if f.isDirectory name then .directory else .missing

/-- Follows the components of a path from a directory, `name` in reverse, on. A step upwards leads
from a directory to the one around it. -/
def follow (f : Files) (name : FileName) : FileName → FileEntry
  | [] => f.entryOf name.reverse
  | step :: rest =>
    if step == ['.', '.'] then
      if f.isDirectory name.reverse then
        match name with
        | [] => if rest.all (· == ['.', '.']) then .directory else .missing
        | _ :: outer => follow f outer rest
      else .missing
    else follow f (step :: name) rest

/-- What a path leads to. -/
def entry (f : Files) (path : String) : FileEntry :=
  if ['/'].isPrefixOf path.toList then
    if (components path.toList).isEmpty then .directory else .missing
  else f.follow [] (components path.toList)

def exists? (f : Files) (path : String) : Bool :=
  f.entry path != .missing

/-- A path as it is shown: its components, or a dot. -/
def shown (path : String) : String :=
  if ['/'].isPrefixOf path.toList then "/" ++ FileName.path (components path.toList)
  else if (components path.toList).isEmpty then "."
  else FileName.path (components path.toList)

/-- The text of a file, with a line feed at the end of every line. -/
def readText (f : Files) (path : String) : Except ReadFailure (List Char) :=
  match f.entry path with
  | .missing => .error (.missing (shown path))
  | .directory => .error (.isDirectory (shown path))
  | .file bytes =>
    match Utf8.decode bytes with
    | .ok text => .ok (unixLines text)
    | .error failure => .error (.undecodable failure)

end Files

end CodeIndex
