import CodeIndex.Language.Basic
import CodeIndex.Project.IgnoreFile
import CodeIndex.Settings
import CodeIndex.Text.Find

/-!
The worker that keeps an index up to date: which files it takes, and what it remembers between two
cycles.
-/

namespace CodeIndex

structure Worker where
  /-- The rules of the ignore file, if there is one. -/
  rules : Option Ignore.Rules
  /-- The suffixes of files that are taken. -/
  suffixes : List String
  /-- The commit at the end of the last cycle, if one is known. -/
  lastCommit : Option String := none
  deriving DecidableEq, Repr

namespace Worker

/-- A worker that takes the files of all known languages, and those with the suffixes that are
set. -/
def create (settings : Settings) (files : Files) : Except RulesFailure Worker :=
  files.rules.map fun rules =>
    { rules, suffixes := Language.bySuffix.map Prod.fst ++ settings.fileExtensions }

/-- Reads the ignore file again. -/
def reload (files : Files) (w : Worker) : Except RulesFailure Worker :=
  files.rules.map fun rules => { w with rules }

/-- A file is taken if its suffix is, and neither the rules nor the settings leave it out. -/
def accepts (settings : Settings) (w : Worker) (path : String) : Bool :=
  w.suffixes.contains (Text.lower (Text.suffix path)) && !Ignore.isIgnored w.rules path &&
    !settings.ignorePatterns.any fun pattern => Text.contains pattern.toList path.toList

end Worker

end CodeIndex
