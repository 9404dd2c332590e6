import CodeIndex.Analysis.Basic
import CodeIndex.Text.Lines

/-!
One line that describes an analysed file: its own summary, and the first five of its classes,
functions and imports.
-/

namespace CodeIndex.Analysis

open CodeIndex.Text

/-- How many names of each kind are listed. -/
def overviewNames : Nat := 5

/-- Counts the symbols of a kind and lists the first of them; nothing when there are none. -/
def definedOverview (symbols : List Symbol) (kind : SymbolKind) : List String :=
  let found := symbols.filter fun s => s.kind == kind
  if found.isEmpty then []
  else
    ["Defines " ++ toString found.length ++ " " ++ kind.label ++
      (match kind with
        | .classDef => "(es): "
        | _ => "(s): ") ++ joinStrings ", " ((found.take overviewNames).map Symbol.name)]

def importsOverview (imports : List String) : List String :=
  if imports.isEmpty then [] else ["Imports: " ++ joinStrings ", " (imports.take overviewNames)]

def summaryOverview : Option CodeText → List CodeText
  | some summary => if summary.isEmpty then [] else [summary]
  | none => []

/-- A description of the file for search. -/
def overview (a : Analysis) : CodeText :=
  match a.error? with
  | some error => .ofString ("Error analyzing file: " ++ error)
  | none =>
    let names := definedOverview a.symbols .classDef ++ definedOverview a.symbols .function ++
      importsOverview a.imports
    let parts := summaryOverview a.summary ++ names.map CodeText.ofString
    if parts.isEmpty then .ofString "Empty or unanalyzable file"
    else join (CodeText.ofString " | ") parts

end CodeIndex.Analysis
