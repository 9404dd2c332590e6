import CodeIndex.Concrete.Extractor
import CodeIndex.Text.Case
import CodeIndex.Text.PathName

/-!
Grammars that a parser builds concrete trees by, and the analysis of a file by its grammar.
-/

namespace CodeIndex

inductive Grammar where
  | python | javascript | typescript | tsx | go | rust | java | c | cpp | ruby | php | csharp
  deriving DecidableEq, Repr

namespace Grammar

def name : Grammar → String
  | .python => "python"
  | .javascript => "javascript"
  | .typescript => "typescript"
  | .tsx => "tsx"
  | .go => "go"
  | .rust => "rust"
  | .java => "java"
  | .c => "c"
  | .cpp => "cpp"
  | .ruby => "ruby"
  | .php => "php"
  | .csharp => "c_sharp"

/-- The suffixes of the files that a grammar is for. -/
def bySuffix : List (String × Grammar) := [
  (".py", .python), (".pyi", .python),
  (".js", .javascript), (".jsx", .javascript), (".mjs", .javascript), (".cjs", .javascript),
  (".ts", .typescript), (".tsx", .tsx), (".go", .go), (".rs", .rust), (".java", .java),
  (".c", .c), (".h", .c), (".cpp", .cpp), (".hpp", .cpp), (".rb", .ruby), (".php", .php),
  (".cs", .csharp)]

/-- The grammar for a file, by its suffix in any case. -/
def ofPath? (path : String) : Option Grammar :=
  bySuffix.lookup (Text.lower (Text.suffix path))

end Grammar

namespace Concrete

/-- The rules of extraction by the names of languages. -/
def Extractor.byName : List (String × Extractor) := [
  ("python", .python), ("javascript", .javascript), ("typescript", .javascript),
  ("tsx", .javascript), ("jsx", .javascript)]

/-- The rules of extraction for a language, named in any case. -/
def Extractor.ofName? (language : String) : Option Extractor :=
  byName.lookup (Text.lower language)

/-- The analysis of a file by the grammar of its suffix, given the answer of the parser. -/
def analyze (path content : String) (parsed : Except String Tree) : Analysis :=
  match Grammar.ofPath? path with
  | none => .failed path (.unsupportedSuffix (Text.suffix path))
  | some grammar =>
    match parsed with
    | .error _ => .failed path (.unparsed grammar.name)
    | .ok root =>
      match Extractor.ofName? grammar.name with
      | none => .failed path (.noExtractor grammar.name)
      | some extractor =>
        match extractor.extract path content root with
        | .ok analysis => analysis
        | .error failure => .failed path failure

end Concrete

end CodeIndex
