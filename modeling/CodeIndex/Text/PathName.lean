import CodeIndex.Text.Lines

/-!
Names of files: the last component of a path, its suffix and its stem.

Components are separated by slashes; empty components and single dots do not count.
-/

namespace CodeIndex.Text

def components (path : List Char) : List (List Char) :=
  (fields '/' path).filter fun c => !(c.isEmpty || c == ['.'])

/-- The last component, empty when there is none. -/
def baseName (path : List Char) : List Char :=
  (components path).getLast?.getD []

/-- Cuts a name before its last dot, unless the dot is its first or its last character. -/
def splitSuffix (name : List Char) : List Char × List Char :=
  let tail := (name.reverse.takeWhile (· != '.')).length
  let dot := name.length - tail - 1
  if tail < name.length && 0 < dot && 0 < tail then (name.take dot, name.drop dot) else (name, [])

/-- The suffix of the last component with its dot, empty when it has none. -/
def suffix (path : String) : String :=
  String.ofList (splitSuffix (baseName path.toList)).2

/-- The last component without its suffix. -/
def stem (path : String) : String :=
  String.ofList (splitSuffix (baseName path.toList)).1

end CodeIndex.Text
