import CodeIndex.Text.CodePoint
import CodeIndex.Text.Utf8

/-!
What the analysis of one file yields: the symbols it defines, the relationships between symbols, and
the modules it imports.

An analysis that fails carries the failure and nothing else.
-/

namespace CodeIndex

inductive SymbolKind where
  | function
  | method
  | classDef
  | other (label : String)
  deriving DecidableEq, Repr

namespace SymbolKind

def label : SymbolKind → String
  | .function => "function"
  | .method => "method"
  | .classDef => "class"
  | .other label => label

def ofLabel : String → SymbolKind
  | "function" => .function
  | "method" => .method
  | "class" => .classDef
  | label => .other label

end SymbolKind

inductive RelationshipKind where
  | calls
  | imports
  | inherits
  | other (label : String)
  deriving DecidableEq, Repr

namespace RelationshipKind

def label : RelationshipKind → String
  | .calls => "calls"
  | .imports => "imports"
  | .inherits => "inherits"
  | .other label => label

def ofLabel : String → RelationshipKind
  | "calls" => .calls
  | "imports" => .imports
  | "inherits" => .inherits
  | label => .other label

end RelationshipKind

/-- A definition in a file, on the lines `lineStart` to `lineEnd`, counted from one. -/
structure Symbol where
  name : String
  kind : SymbolKind
  filePath : String
  lineStart : Nat
  lineEnd : Nat
  signature : Option String := none
  docText : Option Text.CodeText := none
  /-- The class that a method belongs to. -/
  parent : Option String := none
  isExported : Bool := true
  deriving DecidableEq, Repr

/-- Something that a symbol of a file does to another symbol on a line. -/
structure Relationship where
  sourceFile : String
  source : String
  line : Nat
  targetFile : Option String := none
  target : String
  kind : RelationshipKind
  isExternal : Bool := false
  deriving DecidableEq, Repr

/-- Why a file could not be analysed. -/
inductive AnalysisFailure where
  /-- The text is not of the language. -/
  | invalidSource
  | nulInPath
  /-- The parser gave no tree, for the given reason. -/
  | unreadable (reason : String)
  /-- A chain of members ends in a member of nothing. -/
  | memberOfNothing
  | unsupportedSuffix (suffix : String)
  | unparsed (language : String)
  | noExtractor (language : String)
  | undecodable (failure : Text.Utf8.Failure)
  | reported (text : String)
  deriving DecidableEq, Repr

def AnalysisFailure.message : AnalysisFailure → String
  | .invalidSource => "Syntax error"
  | .nulInPath => "Analysis error: embedded null character"
  | .unreadable reason => "Analysis error: " ++ reason
  | .memberOfNothing => "Analysis error: 'NoneType' object has no attribute 'type'"
  | .unsupportedSuffix suffix => "Unsupported file type: " ++ suffix
  | .unparsed language => "Failed to parse " ++ language ++ " code"
  | .noExtractor language => "No extractor available for language: " ++ language
  | .undecodable failure => failure.message
  | .reported text => text

structure Analysis where
  filePath : String
  symbols : List Symbol := []
  relationships : List Relationship := []
  imports : List String := []
  summary : Option Text.CodeText := none
  failure : Option AnalysisFailure := none
  deriving DecidableEq, Repr

namespace Analysis

/-- The analysis of a file that failed. -/
def failed (filePath : String) (failure : AnalysisFailure) : Analysis :=
  { filePath, failure := some failure }

/-- The text of the failure, unless there is none or it is empty. -/
def error? (a : Analysis) : Option String :=
  match a.failure with
  | none => none
  | some failure => if failure.message.isEmpty then none else some failure.message

end Analysis

end CodeIndex
