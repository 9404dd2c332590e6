import CodeIndex.Concrete.Walk
import CodeIndex.Text.Blank

/-!
Extraction of symbols and relationships from concrete trees of Python and of JavaScript.

Names are the decoded bytes of nodes; bytes that are no UTF-8 text make the whole extraction fail.
Calls are recorded inside of named functions only.
-/

namespace CodeIndex.Concrete

open CodeIndex.Text

/-- The languages with rules of extraction. -/
inductive Extractor where
  | python
  | javascript
  deriving DecidableEq, Repr

namespace Extractor

/-- The text of a node. -/
def text (bytes : List UInt8) (t : Tree) : Except AnalysisFailure String :=
  match Utf8.decode (t.bytesIn bytes) with
  | .ok chars => .ok (String.ofList chars)
  | .error e => .error (.undecodable e)

/-- The text of a field, if it is filled. -/
def fieldText (bytes : List UInt8) (t : Tree) (name : String) :
    Except AnalysisFailure (Option String) :=
  match t.child? name with
  | none => .ok none
  | some c => (text bytes c).map some

/-- The name in front of relationships that belong to no definition. -/
def moduleSource : String := "__module__"

def importRelationship (path : String) (line : Nat) (target : String) : Relationship :=
  { sourceFile := path, source := moduleSource, line, target, kind := .imports, isExternal := true }

def callRelationship (path source : String) (line : Nat) (target : String) : Relationship :=
  { sourceFile := path, source, line, target, kind := .calls }

def inheritance (path source : String) (line : Nat) (target : String) : Relationship :=
  { sourceFile := path, source, line, target, kind := .inherits }

/-- A definition on the lines of a node. -/
def definition (bytes : List UInt8) (path name : String) (kind : SymbolKind) (t : Tree) : Symbol :=
  { name, kind, filePath := path, lineStart := t.firstLine bytes, lineEnd := t.lastLine bytes }

/-- Documentation without its quotes and the blanks around it. -/
def unquoteDoc (s : String) : String :=
  String.ofList (trim (trimChar '\'' (trimChar '"' (trimChar '\'' (trimChar '"' s.toList)))))

/-- A string that is the first statement of the body. -/
def docText (bytes : List UInt8) (t : Tree) : Except AnalysisFailure (Option CodeText) :=
  match (t.child? "body").bind fun body => body.children.head? with
  | some first =>
    if first.kind == "expression_statement" then
      match first.children.head? with
      | some value =>
        if value.kind == "string" then
          (text bytes value).map fun quoted => some (.ofString (unquoteDoc quoted))
        else .ok none
      | none => .ok none
    else .ok none
  | none => .ok none

/-- The name of what a call calls: an identifier, or the last member of a chain. -/
def calleeText (bytes : List UInt8) (memberKind memberField : String) (callee : Tree) :
    Except AnalysisFailure (Option String) :=
  if callee.kind == "identifier" then (text bytes callee).map some
  else if callee.kind == memberKind then fieldText bytes callee memberField
  else .ok none

/-- The call of a node, if it lies in a named function and calls something with a name. -/
def callOf (bytes : List UInt8) (path memberKind memberField : String) (scope : Scope) (t : Tree) :
    Except AnalysisFailure Found := do
  match nonEmpty? scope.inFunction, t.child? "function" with
  | some source, some callee =>
    match nonEmpty? (← calleeText bytes memberKind memberField callee) with
    | some target =>
      pure { relationships := [callRelationship path source (t.firstLine bytes) target] }
    | none => pure {}
  | _, _ => pure {}

/-- An import of one module by a node. -/
def importOf (bytes : List UInt8) (path : String) (t : Tree) (target : String) : Found :=
  { imports := [target], relationships := [importRelationship path (t.firstLine bytes) target] }

/-! ### Python -/

/-- A function with a name is a method in a class whose name is not empty. -/
def pythonFunction (bytes : List UInt8) (path : String) (scope : Scope) (t : Tree) (name : String) :
    Except AnalysisFailure (Found × Scope) := do
  let signature ← fieldText bytes t "parameters"
  let doc ← docText bytes t
  let kind := if (nonEmpty? scope.inClass).isSome then SymbolKind.method else .function
  let symbol :=
    { definition bytes path name kind t with signature, docText := doc, parent := scope.inClass }
  pure ({ symbols := [symbol] }, { scope with inFunction := some name })

def pythonClass (bytes : List UInt8) (path : String) (scope : Scope) (t : Tree) (name : String) :
    Except AnalysisFailure (Found × Scope) := do
  let doc ← docText bytes t
  let bases ← match t.child? "superclasses" with
    | some list => (list.childrenOf "identifier").mapM (text bytes)
    | none => pure []
  let symbol := { definition bytes path name .classDef t with docText := doc }
  let found : Found :=
    { symbols := [symbol], relationships := bases.map (inheritance path name (t.firstLine bytes)) }
  pure (found, { scope with inClass := some name })

/-- The rule for Python trees. -/
def pythonRule (bytes : List UInt8) (path : String) : NodeRule := fun scope t => do
  match t.kind with
  | "function_definition" =>
    match ← fieldText bytes t "name" with
    | some name => pythonFunction bytes path scope t name
    | none => pure ({}, scope)
  | "class_definition" =>
    match ← fieldText bytes t "name" with
    | some name => pythonClass bytes path scope t name
    | none => pure ({}, scope)
  | "call" =>
    let found ← callOf bytes path "attribute" "attribute" scope t
    pure (found, scope)
  | "import_statement" =>
    let names ← (t.childrenOf "dotted_name").mapM (text bytes)
    pure (names.foldl (fun found name => found ++ importOf bytes path t name) {}, scope)
  | "import_from_statement" =>
    match ← fieldText bytes t "module_name" with
    | some name => pure (importOf bytes path t name, scope)
    | none => pure ({}, scope)
  | _ => pure ({}, scope)

/-! ### JavaScript -/

def isFunctionValue (t : Tree) : Bool :=
  t.kind == "arrow_function" || t.kind == "function"

/-- The name node of a variable that is declared with a function as its value. -/
def functionVariable? (t : Tree) : Option Tree :=
  match t.child? "name", t.child? "value" with
  | some name, some value => if isFunctionValue value then some name else none
  | _, _ => none

/-- The rule for JavaScript trees. A method counts inside of a class whose name is not empty. -/
def javascriptRule (bytes : List UInt8) (path : String) : NodeRule := fun scope t => do
  match t.kind with
  | "function_declaration" =>
    match ← fieldText bytes t "name" with
    | some name =>
      let signature ← fieldText bytes t "parameters"
      let symbol :=
        { definition bytes path name .function t with signature, parent := scope.inClass }
      pure ({ symbols := [symbol] }, { scope with inFunction := some name })
    | none => pure ({}, scope)
  | "lexical_declaration" =>
    let names ←
      ((t.childrenOf "variable_declarator").filterMap functionVariable?).mapM (text bytes)
    let symbols := names.map fun name =>
      { definition bytes path name .function t with parent := scope.inClass }
    pure ({ symbols }, scope)
  | "class_declaration" =>
    match ← fieldText bytes t "name" with
    | some name =>
      pure ({ symbols := [definition bytes path name .classDef t] },
        { scope with inClass := some name })
    | none => pure ({}, scope)
  | "method_definition" =>
    match nonEmpty? scope.inClass with
    | none => pure ({}, scope)
    | some parent =>
      match ← fieldText bytes t "name" with
      | some name =>
        let symbol := { definition bytes path name .method t with parent := some parent }
        pure ({ symbols := [symbol] }, { scope with inFunction := some name })
      | none => pure ({}, scope)
  | "call_expression" =>
    let found ← callOf bytes path "member_expression" "property" scope t
    pure (found, scope)
  | "import_statement" =>
    match ← fieldText bytes t "source" with
    | some source =>
      let target := String.ofList (trimChar '\'' (trimChar '"' source.toList))
      pure (importOf bytes path t target, scope)
    | none => pure ({}, scope)
  | _ => pure ({}, scope)

def rule : Extractor → List UInt8 → String → NodeRule
  | .python => pythonRule
  | .javascript => javascriptRule

/-- The analysis of a file whose text has the given tree. -/
def extract (e : Extractor) (path content : String) (root : Tree) :
    Except AnalysisFailure Analysis :=
  (walk (e.rule (Utf8.encode content.toList) path) {} root).map (Found.analysis path)

end Extractor

end CodeIndex.Concrete
