import CodeIndex.Text.Find

/-!
The choice of an analysis for a file by the end of its path.
-/

namespace CodeIndex

/-- The analyses that work file by file: of Python text, and of script trees. -/
inductive FileAnalyzer where
  | source
  | script
  deriving DecidableEq, Repr

namespace FileAnalyzer

def endings : FileAnalyzer → List String
  | .source => [".py", ".pyw"]
  | .script => [".js", ".jsx", ".mjs", ".cjs", ".ts", ".tsx", ".mts", ".cts"]

def canAnalyze (a : FileAnalyzer) (path : String) : Bool :=
  a.endings.any (Text.endsWith path)

/-- The first of the available analyses that takes the file. -/
def choose? (available : List FileAnalyzer) (path : String) : Option FileAnalyzer :=
  available.find? fun a => a.canAnalyze path

end FileAnalyzer

end CodeIndex
