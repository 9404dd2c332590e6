import CodeIndex.Text.Blank
import CodeIndex.Text.Find
import CodeIndex.Text.Lines

/-!
What has changed in a project, from the answers of version control.

Changes are taken from a list of names with a status each. Where no commit to compare with is known,
or the comparison fails, every file counts as added.
-/

namespace CodeIndex

open CodeIndex.Text

inductive ChangeStatus where
  | added
  | modified
  | deleted
  deriving DecidableEq, Repr

namespace ChangeStatus

def label : ChangeStatus → String
  | .added => "added"
  | .modified => "modified"
  | .deleted => "deleted"

/-- The status behind a letter; a letter that is not known stands for a modification. -/
def ofLetter (letter : List Char) : ChangeStatus :=
  if letter == ['A'] then .added
  else if letter == ['D'] then .deleted
  else .modified

end ChangeStatus

structure Change where
  path : String
  status : ChangeStatus
  deriving DecidableEq, Repr

namespace Git

/-- The answer to a command: its exit code, and what it prints, as it is read. -/
structure Answer where
  code : Int := 0
  output : String := ""
  deriving DecidableEq, Repr

/-- The answer of a command that ends with a code and prints a text. The text is read with a line
feed for every line end, as that of a file is. -/
def Answer.read (code : Int) (printed : List Char) : Answer :=
  ⟨code, String.ofList (unixLines printed)⟩

/-- A program with its arguments. -/
abbrev Command := List String

def diffCommand (since : String) : Command :=
  ["git", "diff", "--name-status", since, "HEAD"]

def headCommand : Command :=
  ["git", "rev-parse", "HEAD"]

/-- A line of a comparison has no tabulator. -/
inductive ChangeFailure where
  | noTab
  deriving DecidableEq, Repr

def ChangeFailure.message : ChangeFailure → String
  | .noTab => "not enough values to unpack (expected 2, got 1)"

/-- The change that a line of a comparison tells of: a status and a path after the first
tabulator. -/
def changeOfLine (line : List Char) : Except ChangeFailure Change :=
  match after? ['\t'] line with
  | some path => .ok ⟨String.ofList path, .ofLetter (before ['\t'] line)⟩
  | none => .error .noTab

/-- The changes that a comparison prints. -/
def changesOf (output : List Char) : Except ChangeFailure (List Change) :=
  ((fields '\n' (trim output)).filter fun line => !line.isEmpty).mapM changeOfLine

/-- The commit to compare with, unless its name is empty. -/
def base? : Option String → Option String
  | some commit => if commit.isEmpty then none else some commit
  | none => none

/-- The commands that find out what has changed since a commit. -/
def changeCommands (since : Option String) : List Command :=
  ((base? since).map diffCommand).toList

/-- What has changed since a commit, given the paths of all files and the answer of the
comparison. -/
def changesSince (files : List String) (since : Option String) (diff : Answer) :
    Except ChangeFailure (List Change) :=
  match base? since with
  | some _ =>
    if diff.code = 0 then changesOf diff.output.toList
    else .ok (files.map fun path => ⟨path, .added⟩)
  | none => .ok (files.map fun path => ⟨path, .added⟩)

/-- The name of the current commit. -/
def currentCommit (head : Answer) : Option String :=
  if head.code = 0 then some (String.ofList (trim head.output.toList)) else none

end Git

end CodeIndex
