import CodeIndex.Analysis.Basic
import CodeIndex.Text.Blank
import CodeIndex.Text.Case
import CodeIndex.Text.Find
import CodeIndex.Text.Lines

/-!
Summaries of files by their lines: the comment at the top, the number of definitions, and the first
imports.

Only the lines are looked at. The rules are chosen by the name of the language; a file in any other
language is described by that name alone.
-/

namespace CodeIndex.Summary

open CodeIndex.Text

/-- Why a file has no summary. -/
inductive Failure where
  /-- A line that starts an import names no module. -/
  | noModule
  /-- The name of the language is needed and not known. -/
  | noLanguage
  deriving DecidableEq, Repr

def Failure.message : Failure → String
  | .noModule => "list index out of range"
  | .noLanguage => "'NoneType' object has no attribute 'capitalize'"

/-- The rules for the lines of a file. -/
inductive Style where
  | python
  | script
  | other
  deriving DecidableEq, Repr

def Style.ofLanguage : Option String → Style
  | some "python" => .python
  | some "javascript" => .script
  | some "typescript" => .script
  | _ => .other

/-- The length to which the comment at the top is cut. -/
def docLength : Nat := 200

/-- Puts the lines of a comment into one. -/
def docLine (lines : List (List Char)) : List Char :=
  (trim (join [' '] lines)).take docLength

/-- The triple quotes that a line starts with. -/
def openingQuotes? (line : List Char) : Option (List Char) :=
  if "\"\"\"".toList.isPrefixOf line then some "\"\"\"".toList
  else if "'''".toList.isPrefixOf line then some "'''".toList
  else none

/-- The lines up to the quotes. -/
def linesUpTo (quotes : List Char) : List (List Char) → List (List Char)
  | [] => []
  | line :: rest =>
    if contains quotes line then [before quotes line] else line :: linesUpTo quotes rest

/-- How many lines after the one with the opening quotes belong to the text at most. -/
def quotedLines : Nat := 19

/-- The text in triple quotes that starts on one of the first `n` lines. The line with the opening
quotes loses all quotes of that kind, and the text goes on after it. -/
def quotedDoc? : Nat → List (List Char) → Option (List Char)
  | 0, _ => none
  | _, [] => none
  | n + 1, line :: rest =>
    match openingQuotes? (trim line) with
    | some quotes =>
      some (docLine (erase quotes (trim line) :: linesUpTo quotes (rest.take quotedLines)))
    | none => quotedDoc? n rest

/-- A line of a comment without its marks. -/
def commentLine (line : List Char) : List Char :=
  trim (erase "*".toList (erase "*/".toList (erase "/**".toList line)))

/-- The lines of the comment, up to the first line that ends any comment. -/
def commentLines (inside : Bool) : List (List Char) → List (List Char)
  | [] => []
  | line :: rest =>
    let line := trim line
    let inside := inside || "/**".toList.isPrefixOf line
    (if inside then [commentLine line] else []) ++
      (if contains "*/".toList line then [] else commentLines inside rest)

/-- The comment at the top of a file. -/
def doc? (style : Style) (lines : List (List Char)) : Option (List Char) :=
  match style with
  | .python => quotedDoc? 10 lines
  | .script =>
    let found := commentLines false (lines.take 20)
    if found.isEmpty then none else some (docLine found)
  | .other => none

/-- How many definitions of a kind the text has. -/
def definitions (style : Style) (kind : SymbolKind) (text : List Char) : Nat :=
  match style, kind with
  | .python, .function =>
    occurrences "\ndef ".toList text + occurrences "\nasync def ".toList text
  | .python, .classDef => occurrences "\nclass ".toList text
  | .script, .function =>
    occurrences "function ".toList text + occurrences "async function ".toList text +
      occurrences "=>".toList text
  | .script, .classDef => occurrences "class ".toList text
  | _, _ => 0

/-- The first name of the module that a line imports. -/
def pythonImport? (line : List Char) : Except Failure (Option (List Char)) :=
  if "import ".toList.isPrefixOf line then
    match words line with
    | _ :: name :: _ => .ok (some (before ['.'] name))
    | _ => .error .noModule
  else if "from ".toList.isPrefixOf line then
    match words line with
    | _ :: name :: _ => .ok (some (before ['.'] name))
    | _ => .ok none
  else .ok none

/-- Where the call that loads a module starts. A line that starts with a call in single quotes is
taken for one in double quotes. -/
def requireStart? (line : List Char) : Option Nat :=
  match find? "require('".toList line with
  | some 0 => find? "require(\"".toList line
  | other => other

/-- Quotes and semicolons, which stand around the name of a module. -/
def isModuleMark (c : Char) : Bool :=
  c == '\'' || c == ';' || c == '"'

/-- The module that a line imports. -/
def scriptImport? (line : List Char) : Option (List Char) :=
  if "import ".toList.isPrefixOf line && contains " from ".toList line then
    some (trimWhile isModuleMark (trim (afterLast " from ".toList line)))
  else
    (requireStart? line).map fun start =>
      before ['"'] (before ['\''] (line.drop (start + "require('".length)))

/-- Puts a name into a list in ascending order, unless it is there. -/
def insertName (name : String) : List String → List String
  | [] => [name]
  | first :: rest =>
    if name < first then name :: first :: rest
    else if name == first then first :: rest
    else first :: insertName name rest

theorem mem_insertName {name other : String} {names : List String} :
    other ∈ insertName name names ↔ other = name ∨ other ∈ names := by
  fun_induction insertName name names with
  | case1 => simp
  | case2 first rest hlt => simp
  | case3 first rest hlt heq => simp [eq_of_beq heq]
  | case4 first rest hlt hne ih => simp [ih, or_left_comm]

theorem pairwise_insertName (name : String) {names : List String}
    (h : names.Pairwise (· < ·)) : (insertName name names).Pairwise (· < ·) := by
  fun_induction insertName name names with
  | case1 => simp
  | case2 first rest hlt =>
      refine List.pairwise_cons.mpr ⟨?_, h⟩
      intro other member
      rcases List.mem_cons.mp member with rfl | hrest
      · exact hlt
      · exact String.lt_trans hlt ((List.pairwise_cons.mp h).1 other hrest)
  | case3 first rest hlt heq => exact h
  | case4 first rest hlt hne ih =>
      obtain ⟨hfirst, hrest⟩ := List.pairwise_cons.mp h
      refine List.pairwise_cons.mpr ⟨?_, ih hrest⟩
      intro other member
      rcases mem_insertName.mp member with rfl | hother
      · refine String.not_le.mp fun hle => hne ?_
        exact beq_iff_eq.mpr (String.le_antisymm hle (String.not_lt.mp hlt))
      · exact hfirst other hother

/-- The order in which the names of a set are listed, by the order in which they were put in. It is
the same as long as the program runs, and may be another one the next time. -/
structure SetOrder where
  list : List String → List String
  nodup : ∀ names, (list names).Nodup
  mem_list : ∀ names name, name ∈ list names ↔ name ∈ names

@[simp]
theorem SetOrder.list_nil (order : SetOrder) : order.list [] = [] :=
  List.eq_nil_iff_forall_not_mem.mpr fun name member =>
    absurd ((order.mem_list [] name).mp member) List.not_mem_nil

/-- The names in ascending order. -/
def SetOrder.ascending : SetOrder where
  list names := names.foldr insertName []
  nodup names := by
    have hsorted : (names.foldr insertName []).Pairwise (· < ·) := by
      induction names with
      | nil => exact List.Pairwise.nil
      | cons name rest ih => exact pairwise_insertName name ih
    exact hsorted.imp fun hlt => String.ne_of_lt hlt
  mem_list names name := by
    induction names with
    | nil => rfl
    | cons first rest ih => rw [List.foldr_cons, mem_insertName, ih, List.mem_cons]

/-- How many imports are kept. -/
def importsKept : Nat := 10

/-- The imports of a file, without repetition: the first ones of the set. -/
def imports (order : SetOrder) (style : Style) (lines : List (List Char)) :
    Except Failure (List String) :=
  let found : Except Failure (List (Option (List Char))) :=
    match style with
    | .python => lines.mapM fun line => pythonImport? (trim line)
    | .script => .ok (lines.map fun line => scriptImport? (trim line))
    | .other => .ok []
  found.map fun names => (order.list ((names.filterMap id).map String.ofList)).take importsKept

/-- How many imports a summary lists. -/
def importsListed : Nat := 5

/-- The sentences of a summary. -/
def sentences (doc : Option String) (classes functions : Nat) (imports : List String) :
    List String :=
  (match doc with
    | some doc => if doc.isEmpty then [] else [doc]
    | none => []) ++
  (if 0 < classes then ["Defines " ++ toString classes ++ " class(es)"] else []) ++
  (if 0 < functions then ["Contains " ++ toString functions ++ " function(s)"] else []) ++
  (if imports.isEmpty then []
    else ["Imports: " ++ joinStrings ", " (imports.take importsListed)])

/-- The summary of a file in a language. -/
def ofFile (order : SetOrder) (content : List Char) (language : Option String) :
    Except Failure String :=
  let style := Style.ofLanguage language
  let lines := fields '\n' content
  match imports order style lines with
  | .error failure => .error failure
  | .ok names =>
    let parts := sentences ((doc? style lines).map String.ofList)
      (definitions style .classDef content) (definitions style .function content) names
    if parts.isEmpty then
      match language with
      | some name => .ok (capitalize name ++ " module")
      | none => .error .noLanguage
    else .ok (joinStrings ". " parts)

end CodeIndex.Summary
