import CodeIndex.Ignore.Entry
import CodeIndex.Ignore.Rules
import CodeIndex.Project.Files

/-!
The ignore file of a project: its rules, and the entry that is added to it.
-/

namespace CodeIndex

/-- What stands in the place of the ignore file. -/
inductive IgnoreFile where
  | missing
  /-- A link to a place where no file can be made. -/
  | dangling
  | directory
  | file (bytes : List UInt8)
  deriving DecidableEq, Repr

namespace IgnoreFile

def path : String := ".gitignore"

/-- Adds the entry to the ignore file, unless it has it. All that is there stays as it is, byte for
byte. Where no file can be made none is. -/
def addEntry : IgnoreFile → Except ReadFailure IgnoreFile
  | .missing => .ok (.file (Text.Utf8.encode (Ignore.withEntry [])))
  | .dangling => .ok .dangling
  | .directory => .error (.isDirectory path)
  | .file bytes =>
    match Text.Utf8.decode bytes with
    | .error failure => .error (.undecodable failure)
    | .ok text => .ok (.file (bytes ++ Text.Utf8.encode (Ignore.entryAddition text)))

end IgnoreFile

/-- Why the ignore file cannot be used. -/
inductive RulesFailure where
  | unreadable (failure : ReadFailure)
  | line (failure : Ignore.LineFailure)
  deriving DecidableEq, Repr

namespace Files

/-- The rules of the ignore file, if there is one. -/
def rules (f : Files) : Except RulesFailure (Option Ignore.Rules) :=
  if f.exists? IgnoreFile.path then
    match f.readText IgnoreFile.path with
    | .error failure => .error (.unreadable failure)
    | .ok text =>
      match Ignore.Rules.ofText text with
      | .error failure => .error (.line failure)
      | .ok rules => .ok (some rules)
  else .ok none

def ignoreFile (f : Files) : IgnoreFile :=
  match f.entry IgnoreFile.path with
  | .missing => .missing
  | .directory => .directory
  | .file bytes => .file bytes

/-- The files with the entry in the ignore file. -/
def addEntry (f : Files) : Except ReadFailure Files :=
  match f.ignoreFile.addEntry with
  | .error failure => .error failure
  | .ok (.file bytes) => .ok (f.write IgnoreFile.path bytes)
  | .ok _ => .ok f

end Files

end CodeIndex
