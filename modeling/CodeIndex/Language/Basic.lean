import CodeIndex.Text.Case
import CodeIndex.Text.PathName

/-!
Languages that files are cut into chunks by, and the suffixes they are known by.
-/

namespace CodeIndex

/-- A language with separators of its own for the cutting of text. -/
inductive Language where
  | python | js | ts | html | markdown | rst | latex | go | rust | c | cpp | java | kotlin | scala
  | ruby | php | swift | csharp | lua | perl | haskell | elixir | sol | proto | powershell
  deriving DecidableEq, Repr

namespace Language

def name : Language → String
  | .python => "python"
  | .js => "js"
  | .ts => "ts"
  | .html => "html"
  | .markdown => "markdown"
  | .rst => "rst"
  | .latex => "latex"
  | .go => "go"
  | .rust => "rust"
  | .c => "c"
  | .cpp => "cpp"
  | .java => "java"
  | .kotlin => "kotlin"
  | .scala => "scala"
  | .ruby => "ruby"
  | .php => "php"
  | .swift => "swift"
  | .csharp => "csharp"
  | .lua => "lua"
  | .perl => "perl"
  | .haskell => "haskell"
  | .elixir => "elixir"
  | .sol => "sol"
  | .proto => "proto"
  | .powershell => "powershell"

/-- The suffixes of the files of a language. -/
def bySuffix : List (String × Language) := [
  (".py", .python), (".pyi", .python),
  (".js", .js), (".jsx", .js), (".ts", .ts), (".tsx", .ts), (".mjs", .js), (".cjs", .js),
  (".html", .html), (".htm", .html), (".md", .markdown), (".mdx", .markdown), (".rst", .rst),
  (".latex", .latex), (".tex", .latex),
  (".go", .go), (".rs", .rust), (".c", .c), (".h", .c),
  (".cpp", .cpp), (".hpp", .cpp), (".cc", .cpp), (".cxx", .cpp),
  (".java", .java), (".kt", .kotlin), (".kts", .kotlin), (".scala", .scala),
  (".rb", .ruby), (".php", .php), (".swift", .swift), (".cs", .csharp), (".lua", .lua),
  (".pl", .perl), (".hs", .haskell), (".ex", .elixir), (".exs", .elixir), (".sol", .sol),
  (".proto", .proto), (".ps1", .powershell)]

/-- The language of a file, by its suffix in any case. -/
def ofPath? (path : String) : Option Language :=
  bySuffix.lookup (Text.lower (Text.suffix path))

end Language

end CodeIndex
