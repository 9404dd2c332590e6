import CodeIndex.Analysis.Basic
import CodeIndex.Concrete.Tree

/-!
Walks over concrete trees that collect symbols, relationships and imports.

A rule says what a single node contributes and in which scope its children are visited. The walk
puts the contribution of a node in front of those of its children, in order, and stops at the
first failure.
-/

namespace CodeIndex.Concrete

/-- The innermost named class and the innermost named function around a node. -/
structure Scope where
  inClass : Option String := none
  inFunction : Option String := none
  deriving DecidableEq, Repr

/-- What a walk has found. -/
structure Found where
  symbols : List Symbol := []
  relationships : List Relationship := []
  imports : List String := []
  deriving DecidableEq, Repr

namespace Found

def append (a b : Found) : Found :=
  { symbols := a.symbols ++ b.symbols
    relationships := a.relationships ++ b.relationships
    imports := a.imports ++ b.imports }

instance : Append Found := ⟨append⟩

end Found

/-- The contribution of a node in a scope, and the scope of its children. -/
abbrev NodeRule := Scope → Tree → Except AnalysisFailure (Found × Scope)

mutual
/-- What a tree contributes in a scope. -/
def walk (rule : NodeRule) (scope : Scope) : Tree → Except AnalysisFailure Found
  | .node kind start stop field children =>
    match rule scope (.node kind start stop field children) with
    | .error e => .error e
    | .ok (own, inner) =>
      match walkAll rule inner children with
      | .error e => .error e
      | .ok below => .ok (own ++ below)

/-- What the trees contribute, from the first to the last. -/
def walkAll (rule : NodeRule) (scope : Scope) : List Tree → Except AnalysisFailure Found
  | [] => .ok {}
  | t :: others =>
    match walk rule scope t with
    | .error e => .error e
    | .ok first =>
      match walkAll rule scope others with
      | .error e => .error e
      | .ok rest => .ok (first ++ rest)
end

/-- A name that is there and not empty. -/
def nonEmpty? : Option String → Option String
  | some s => if s.isEmpty then none else some s
  | none => none

/-- The analysis that a walk over the whole tree gives. -/
def Found.analysis (path : String) (found : Found) : Analysis :=
  { filePath := path
    symbols := found.symbols
    relationships := found.relationships
    imports := found.imports }

end CodeIndex.Concrete
