import CodeIndex.Concrete.Walk
import CodeIndex.Text.Blank
import CodeIndex.Text.Find
import CodeIndex.Text.Lines

/-!
The analysis of JavaScript and TypeScript files on its own, with the names of called members in full
and a summary from the comments.

Names are cut from the characters of the text by the offsets of nodes. A call inside of a named
definition whose chain of members ends in a member of nothing makes the whole analysis fail.
-/

namespace CodeIndex.Concrete.Script

open CodeIndex.Text

/-- The name in front of relationships that belong to no definition. -/
def moduleSource : String := "<module>"

def text (content : List Char) (t : Tree) : String :=
  String.ofList (t.charsIn content)

/-- The names of the parameters of a definition. -/
def parameterNames (content : List Char) (t : Tree) : List String :=
  match t.child? "parameters" with
  | some list =>
    (list.children.filter fun c => c.kind == "identifier" || c.kind == "required_parameter").map
      (text content)
  | none => []

def signature (content : List Char) (name : String) (t : Tree) : String :=
  name ++ "(" ++ joinStrings ", " (parameterNames content t) ++ ")"

mutual
/-- The names of a chain of members, the last first. The chain fails where a member has no object.
-/
def memberNames (content : List Char) : Tree → Except AnalysisFailure (List String)
  | .node kind start stop field children =>
    let t := Tree.node kind start stop field children
    if kind == "member_expression" then
      (objectNames content children).map fun names =>
        ((t.child? "property").map (text content)).toList ++ names
    else if kind == "identifier" then .ok [text content t]
    else .ok []

/-- The names of the first of the nodes that fills the field of the object. -/
def objectNames (content : List Char) : List Tree → Except AnalysisFailure (List String)
  | [] => .error .memberOfNothing
  | .node kind start stop field children :: others =>
    if field == some "object" then memberNames content (.node kind start stop field children)
    else objectNames content others
end

/-- The name of what a call calls: an identifier, or members joined by dots. -/
def calleeName (content : List Char) (callee : Tree) : Except AnalysisFailure (Option String) :=
  if callee.kind == "identifier" then .ok (some (text content callee))
  else if callee.kind == "member_expression" then
    (memberNames content callee).map fun names => some (joinStrings "." names.reverse)
  else .ok none

/-- The definition that a call belongs to: the innermost function, or else the innermost class, of
those with a name that is not empty. -/
def caller? (scope : Scope) : Option String :=
  (nonEmpty? scope.inFunction).or (nonEmpty? scope.inClass)

def callOf (content : List Char) (bytes : List UInt8) (path : String) (scope : Scope) (t : Tree) :
    Except AnalysisFailure Found := do
  match caller? scope, t.child? "function" with
  | some source, some callee =>
    match nonEmpty? (← calleeName content callee) with
    | some target =>
      pure { relationships :=
        [{ sourceFile := path, source, line := t.firstLine bytes, target, kind := .calls }] }
    | none => pure {}
  | _, _ => pure {}

def isQuote (c : Char) : Bool :=
  c == '\'' || c == '"'

/-- An import; a module whose name starts with a dot belongs to the project. -/
def importOf (content : List Char) (bytes : List UInt8) (path : String) (t source : Tree) : Found :=
  let target := String.ofList (trimWhile isQuote (source.charsIn content))
  { imports := [target]
    relationships :=
      [{ sourceFile := path, source := moduleSource, line := t.firstLine bytes, target,
         kind := .imports, isExternal := !startsWith target "." }] }

/-- A function or a method with a name. -/
def functionOf (content : List Char) (bytes : List UInt8) (path : String) (kind : SymbolKind)
    (scope : Scope) (t nameNode : Tree) : Found × Scope :=
  let name := text content nameNode
  let symbol : Symbol :=
    { name, kind, filePath := path, lineStart := t.firstLine bytes, lineEnd := t.lastLine bytes,
      signature := some (signature content name t), parent := scope.inClass }
  ({ symbols := [symbol] }, { scope with inFunction := some name })

/-- A class with a name, and the identifiers of its heritage. -/
def classOf (content : List Char) (bytes : List UInt8) (path : String) (scope : Scope)
    (t nameNode : Tree) : Found × Scope :=
  let name := text content nameNode
  let bases := ((t.child? "heritage").map fun h => h.childrenOf "identifier").getD []
  let symbol : Symbol :=
    { name, kind := .classDef, filePath := path, lineStart := t.firstLine bytes,
      lineEnd := t.lastLine bytes }
  let found : Found :=
    { symbols := [symbol]
      relationships := bases.map fun base =>
        { sourceFile := path, source := name, line := t.firstLine bytes,
          target := text content base, kind := .inherits } }
  (found, { scope with inClass := some name })

/-- The rule of the walk. -/
def rule (content : List Char) (bytes : List UInt8) (path : String) : NodeRule := fun scope t =>
  match t.kind with
  | "import_statement" =>
    match t.child? "source" with
    | some source => .ok (importOf content bytes path t source, scope)
    | none => .ok ({}, scope)
  | "function_declaration" =>
    match t.child? "name" with
    | some name => .ok (functionOf content bytes path .function scope t name)
    | none => .ok ({}, scope)
  | "method_definition" =>
    match t.child? "name" with
    | some name => .ok (functionOf content bytes path .method scope t name)
    | none => .ok ({}, scope)
  | "class_declaration" =>
    match t.child? "name" with
    | some name => .ok (classOf content bytes path scope t name)
    | none => .ok ({}, scope)
  | "call_expression" => (callOf content bytes path scope t).map fun found => (found, scope)
  | _ => .ok ({}, scope)

/-- A comment is a summary when more than this many characters are left of it. -/
def shortComment : Nat := 10

/-- The length to which a summary is cut. -/
def summaryLength : Nat := 200

/-- A comment without its marks and the blanks around it. -/
def commentText (content : List Char) (t : Tree) : List Char :=
  trim (erase "*/".toList (erase "/*".toList (erase "//".toList (t.charsIn content))))

/-- The first comment at the top level that is long enough. -/
def summary? (content : List Char) (root : Tree) : Option CodeText :=
  let comments := (root.childrenOf "comment").map (commentText content)
  (comments.find? fun c => shortComment < c.length).map fun c =>
    .ofList (c.take summaryLength)

/-- The analysis of a file, given the answer of the parser. -/
def analyze (path content : String) (parsed : Except String Tree) : Analysis :=
  match parsed with
  | .error reason => .failed path (.unreadable reason)
  | .ok root =>
    let chars := content.toList
    match walk (rule chars (Utf8.encode chars) path) {} root with
    | .error failure => .failed path failure
    | .ok found => { found.analysis path with summary := summary? chars root }

end CodeIndex.Concrete.Script
