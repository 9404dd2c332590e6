import CodeIndex.Analysis.Basic
import CodeIndex.Source.DocText
import CodeIndex.Source.Grammar
import CodeIndex.Text.Lines

/-!
The outline of a Python module: a walk over its syntax tree that collects definitions,
inheritance, imports and calls.

The walk goes through the parts in order and carries the innermost class and the innermost
function around the current node. A definition sets its own for the time of its parts and puts the
earlier one back. Calls outside of any definition are not recorded.
-/

namespace CodeIndex.Source

open CodeIndex.Text

/-- What the walk has found, and the definitions it is inside of. -/
structure Walk where
  symbols : List Symbol := []
  relationships : List Relationship := []
  imports : List String := []
  inClass : Option String := none
  inFunction : Option String := none

/-- The name in front of a relationship that belongs to no definition. -/
def moduleName : String := "<module>"

/-- The names of a chain of members, the last first, and the expression in front of it. -/
def memberChain : Node → List String × Node
  | .mk _ (.member id) _ _ [value] =>
    let (ids, base) := memberChain value
    (id :: ids, base)
  | n => ([], n)

/-- The name that a called expression is known by: a name, or members joined by dots, with the name
in front of them when they start at one. -/
def callName? (callee : Node) : Option String :=
  match callee.form with
  | .name id => some id
  | .member _ =>
    let (ids, base) := memberChain callee
    match base.form with
    | .name id => some (joinStrings "." (id :: ids.reverse))
    | _ => some (joinStrings "." ids.reverse)
  | _ => none

def Node.nameId? (n : Node) : Option String :=
  match n.form with
  | .name id => some id
  | _ => none

def Node.parameterId? (n : Node) : Option String :=
  match n.form with
  | .parameter id => some id
  | _ => none

/-- The names of the parameters that are neither positional only nor keyword only. -/
def Node.parameterNames (n : Node) : List String :=
  (n.parts.filter fun p => p.form == .parameters).flatMap fun params =>
    (params.partsIn .parameter).filterMap Node.parameterId?

def signatureOf (name : String) (params : List String) : String :=
  name ++ "(" ++ joinStrings ", " params ++ ")"

def functionSymbol (path : String) (inClass : Option String) (name : String) (n : Node) : Symbol :=
  { name
    kind := if inClass.isSome then .method else .function
    filePath := path
    lineStart := n.line
    lineEnd := n.endLine
    signature := some (signatureOf name n.parameterNames)
    docText := n.docText?
    parent := inClass }

def classSymbol (path : String) (name : String) (n : Node) : Symbol :=
  { name
    kind := .classDef
    filePath := path
    lineStart := n.line
    lineEnd := n.endLine
    docText := n.docText? }

/-- One relationship for each base that is a plain name. -/
def baseRelationships (path : String) (name : String) (n : Node) : List Relationship :=
  ((n.partsIn .base).filterMap Node.nameId?).map fun base =>
    { sourceFile := path, source := name, line := n.line, target := base, kind := .inherits }

def importRelationship (path : String) (line : Nat) (target : String) : Relationship :=
  { sourceFile := path, source := moduleName, line, target, kind := .imports, isExternal := true }

/-- The call of a node inside a definition, if what it calls has a name. -/
def callRelationship? (path : String) (source : String) (n : Node) : Option Relationship :=
  ((n.partsIn .callee).head?.bind callName?).map fun target =>
    { sourceFile := path, source, line := n.line, target, kind := .calls }

namespace Walk

def addSymbol (w : Walk) (s : Symbol) : Walk :=
  { w with symbols := w.symbols ++ [s] }

def addRelationships (w : Walk) (rs : List Relationship) : Walk :=
  { w with relationships := w.relationships ++ rs }

def addImports (w : Walk) (names : List String) : Walk :=
  { w with imports := w.imports ++ names }

/-- The definition that a call belongs to: the innermost function, or else the innermost class. -/
def caller? (w : Walk) : Option String :=
  w.inFunction.or w.inClass

mutual
/-- Visits a node and its parts. -/
def visit (path : String) (w : Walk) : Node → Walk
  | .mk role form line endLine parts =>
    let n := Node.mk role form line endLine parts
    match form with
    | .importModules names =>
      visitAll path ((w.addImports names).addRelationships
        (names.map (importRelationship path line))) parts
    | .importNames (some source) names =>
      if source.isEmpty then visitAll path w parts
      else
        visitAll path ((w.addImports [source]).addRelationships
          (names.map fun name => importRelationship path line (source ++ "." ++ name))) parts
    | .function name _ =>
      let inner := visitAll path
        { w.addSymbol (functionSymbol path w.inClass name n) with inFunction := some name } parts
      { inner with inFunction := w.inFunction }
    | .classDef name =>
      let found := (w.addSymbol (classSymbol path name n)).addRelationships
        (baseRelationships path name n)
      let inner := visitAll path { found with inClass := some name } parts
      { inner with inClass := w.inClass }
    | .call =>
      match w.caller? with
      | none => visitAll path w parts
      | some source =>
        visitAll path (w.addRelationships (callRelationship? path source n).toList) parts
    | _ => visitAll path w parts

/-- Visits nodes from the first to the last. -/
def visitAll (path : String) (w : Walk) : List Node → Walk
  | [] => w
  | n :: others => visitAll path (visit path w n) others
end

end Walk

/-- The analysis of a module given as a syntax tree. -/
def outline (path : String) (module : Node) : Analysis :=
  let w := Walk.visit path {} module
  { filePath := path
    symbols := w.symbols
    relationships := w.relationships
    imports := w.imports
    summary := module.docText? }

/-- The analysis of a Python file. -/
def analyze (path content : String) : Analysis :=
  if path.toList.contains '\x00' then .failed path .nulInPath
  else
    match module? content with
    | none => .failed path .invalidSource
    | some module => outline path module

end CodeIndex.Source
