/-!
What can be set, with the values that hold when nothing is.
-/

namespace CodeIndex

structure Settings where
  projectRoot : String := "."
  dbPath : String := ".mcp-code-search/db.sqlite"
  embedderType : String := "local"
  embedderModel : String := "intfloat/multilingual-e5-large-instruct"
  /-- The number of characters in a chunk. -/
  chunkSize : Int := 1000
  /-- The number of characters that a chunk shares with the one before it. -/
  chunkOverlap : Int := 200
  /-- The seconds between two cycles. -/
  indexInterval : Int := 300
  /-- A path in which one of these occurs is left out. -/
  ignorePatterns : List String :=
    [".git", "node_modules", ".venv", "__pycache__", ".mcp-code-search"]
  /-- Suffixes of files that are indexed besides those of the known languages. -/
  fileExtensions : List String :=
    [".py", ".js", ".ts", ".tsx", ".go", ".rs", ".java", ".md", ".json"]
  enableSummaries : Bool := true
  summarizerModel : String := "mistralai/Ministral-3-3B-Instruct-2512"
  summaryBatchSize : Int := 10
  /-- Symbols and relationships are collected. -/
  enableAnalysis : Bool := true
  /-- The number of characters up to which a file is analysed. -/
  analysisLimit : Int := 100000
  deriving DecidableEq, Repr

end CodeIndex
