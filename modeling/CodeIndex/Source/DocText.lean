import CodeIndex.Source.Node
import CodeIndex.Text.Blank
import CodeIndex.Text.Lines

/-!
The documentation of a module, class or function: a string constant as its first statement, with the
indentation of the source removed.
-/

namespace CodeIndex.Source

open CodeIndex.Text

/-- Replaces tabs by the blanks up to the next multiple of eight columns. -/
def expandTabs (column : Nat) : CodeText → CodeText
  | [] => []
  | c :: rest =>
    if c == .char '\t' then
      let width := 8 - column % 8
      List.replicate width (.char ' ') ++ expandTabs (column + width) rest
    else if c == .char '\n' || c == .char '\r' then c :: expandTabs 0 rest
    else c :: expandTabs (column + 1) rest

/-- A line without the blanks in front of it. -/
def dropIndentation (line : CodeText) : CodeText :=
  line.dropWhile (CodePoint.isChar isBlank)

/-- The blanks in front of a line that has something else, too. -/
def indentation? (line : CodeText) : Option Nat :=
  let content := (dropIndentation line).length
  if content = 0 then none else some (line.length - content)

/-- The least indentation of the lines that are not blank. -/
def margin? (lines : List CodeText) : Option Nat :=
  (lines.filterMap indentation?).min?

/-- Drops empty lines at both ends. -/
def dropEmptyEnds (lines : List CodeText) : List CodeText :=
  (((lines.dropWhile List.isEmpty).reverse).dropWhile List.isEmpty).reverse

/-- The first line loses its blanks, the others lose their common indentation. -/
def cleanDoc (text : CodeText) : CodeText :=
  match fields (.char '\n') (expandTabs 0 text) with
  | [] => []
  | first :: others =>
    let margin := (margin? others).getD 0
    join [.char '\n'] (dropEmptyEnds (dropIndentation first :: others.map (List.drop margin)))

/-- The string constant that is the first statement of a body. -/
def Node.docString? (n : Node) : Option CodeText :=
  match n.partsIn .body with
  | .mk _ .expression _ _ [.mk _ (.text value) _ _ _] :: _ => some value
  | _ => none

def Node.docText? (n : Node) : Option CodeText :=
  n.docString?.map cleanDoc

end CodeIndex.Source
