import CodeIndex.Ignore.Line

/-!
The rules of an ignore file, and which paths they ignore.

Of the patterns that match a path the last one decides, with two exceptions: a pattern that names
the directory around a path gives way to an earlier one that names the path itself, unless it
makes the path ignored.
-/

namespace CodeIndex.Ignore

open CodeIndex.Text

/-- The patterns of an ignore file, the first line first. -/
structure Rules where
  patterns : List Pattern
  deriving DecidableEq, Repr

/-- How a path is decided by the patterns so far, and how closely. -/
structure Verdict where
  ignored : Bool := false
  closeness : Nat := 0
  deriving DecidableEq, Repr

/-- What a pattern makes of the verdict. -/
def Verdict.after (path : List Char) (v : Verdict) (p : Pattern) : Verdict :=
  match p.match? path with
  | none => v
  | some entered =>
    let closeness := if entered then 1 else 2
    if (p.ignores && entered) || v.closeness ≤ closeness then ⟨p.ignores, closeness⟩ else v

/-- A path as it is matched: with slashes for backslashes, and from the root of the project on. -/
def relativePath (path : List Char) : List Char :=
  match path.map fun c => if c == '\\' then '/' else c with
  | '/' :: rest => rest
  | '.' :: '/' :: rest => rest
  | path => path

namespace Rules

/-- The rules of an ignore file with the given text. -/
def ofText (text : List Char) : Except LineFailure Rules :=
  ((lines (unixLines text)).mapM Pattern.ofLine).map fun found => ⟨found.filterMap id⟩

def ignores (rules : Rules) (path : String) : Bool :=
  let path := relativePath path.toList
  (rules.patterns.foldl (Verdict.after path) {}).ignored

end Rules

/-- The rules, if there are any, ignore the path. -/
def isIgnored (rules : Option Rules) (path : String) : Bool :=
  match rules with
  | some rules => rules.ignores path
  | none => false

/-- The paths that are not ignored. -/
def keep (rules : Option Rules) (paths : List String) : List String :=
  paths.filter fun path => !isIgnored rules path

end CodeIndex.Ignore
