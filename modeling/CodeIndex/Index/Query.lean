import CodeIndex.Index.Basic
import CodeIndex.Text.Like
import CodeIndex.Text.PathName

/-!
Questions to the index: where files stand, who calls a symbol and what it calls, and which files a
file imports and is imported by.
-/

namespace CodeIndex

/-- Why a question has no answer. -/
inductive QueryFailure where
  | limitTooLarge
  | patternTooLong
  /-- Names of files cannot be taken apart. -/
  | noPathNames
  deriving DecidableEq, Repr

def QueryFailure.message : QueryFailure → String
  | .limitTooLarge => StoreFailure.limitTooLarge.message
  | .patternTooLong => "LIKE or GLOB pattern too complex"
  | .noPathNames => "name 'Path' is not defined"

/-- A symbol that calls another one. -/
structure Caller where
  name : String
  file : String
  line : Nat
  /-- The kind of the calling symbol, if it is known. -/
  kind : Option SymbolKind
  signature : Option String
  deriving DecidableEq, Repr

/-- A symbol that is called by another one. -/
structure Callee where
  name : String
  file : Option String
  line : Nat
  isExternal : Bool
  deriving DecidableEq, Repr

/-- A module that a file imports. -/
structure ImportedModule where
  name : String
  line : Nat
  isExternal : Bool
  deriving DecidableEq, Repr

/-- A line on which something is imported. -/
structure ImportLine where
  file : String
  line : Nat
  deriving DecidableEq, Repr

structure DependencyTree where
  file : String
  imports : List ImportedModule := []
  importedBy : List ImportLine := []
  deriving DecidableEq, Repr

namespace Index

/-- The relationships of a kind with a property, the oldest first. -/
def relationshipsOf (kind : RelationshipKind) (p : Relationship → Bool) (idx : Index) :
    List Relationship :=
  idx.relationships.values.filter fun r => p r && r.kind == kind

/-- The calling symbol of a call: the oldest symbol of its file that has its name. -/
def callerOf (idx : Index) (call : Relationship) : Caller :=
  let symbol := idx.symbols.find? fun s => s.filePath == call.sourceFile && s.name == call.source
  { name := call.source
    file := call.sourceFile
    line := call.line
    kind := symbol.map Symbol.kind
    signature := symbol.bind Symbol.signature }

def calleeOf (call : Relationship) : Callee :=
  { name := call.target
    file := call.targetFile
    line := call.line
    isExternal := call.isExternal }

/-- The calls of a symbol. -/
def callers (symbol : String) (limit : Int) (idx : Index) : Except QueryFailure (List Caller) :=
  if isLimit limit then
    .ok ((limited limit (idx.relationshipsOf .calls fun r => r.target == symbol)).map idx.callerOf)
  else .error .limitTooLarge

/-- The calls that a symbol makes. -/
def callees (symbol : String) (limit : Int) (idx : Index) : Except QueryFailure (List Callee) :=
  if isLimit limit then
    .ok ((limited limit (idx.relationshipsOf .calls fun r => r.source == symbol)).map calleeOf)
  else .error .limitTooLarge

/-- What a file imports. -/
def importsOf (path : String) (idx : Index) : List ImportedModule :=
  (idx.relationshipsOf .imports fun r => r.sourceFile == path).map fun r =>
    { name := r.target, line := r.line, isExternal := r.isExternal }

/-- How many importers of a file are given. -/
def importersGiven : Nat := 50

/-- The items with a text that is like the pattern. A pattern that is too long fails where it is
compared with a text, so not where there are no items. -/
def likeIn {α : Type} (pattern : List Char) (textOf : α → String) (items : List α) :
    Except QueryFailure (List α) :=
  if Text.isPattern pattern || items.isEmpty then
    .ok (items.filter fun a => Text.like pattern (textOf a).toList)
  else .error .patternTooLong

/-- The imports of modules in whose names the stem of the file occurs. -/
def importersOf (path : String) (idx : Index) : Except QueryFailure (List ImportLine) :=
  let stored := idx.relationshipsOf .imports fun _ => true
  let pattern := Text.occursPattern (Text.stem path).toList
  (likeIn pattern Relationship.target stored).map fun found =>
    (found.take importersGiven).map fun r => { file := r.sourceFile, line := r.line }

/-- The files that a file imports and those that import it, as far as the direction asks for them.
The importers cannot be given where names of files cannot be taken apart: `pathNames` says whether
they can. The program as it is cannot, which is `false`; at `true` the query does what it was
written for. -/
def dependencyTree (pathNames : Bool) (path direction : String) (idx : Index) :
    Except QueryFailure DependencyTree :=
  let imports := if direction == "imports" || direction == "both" then idx.importsOf path else []
  if direction == "importers" || direction == "both" then
    if pathNames then
      (idx.importersOf path).map fun importedBy => { file := path, imports, importedBy }
    else .error .noPathNames
  else .ok { file := path, imports }

/-- The records of files whose path has the text in it. With a limit of zero none is looked at. -/
def searchFiles (query : String) (limit : Int) (idx : Index) : Except QueryFailure (List Record) :=
  if isLimit limit then
    let stored := if limit = 0 then [] else idx.records.values
    (likeIn (Text.occursPattern query.toList) Record.path stored).map (limited limit)
  else .error .limitTooLarge

/-- How many files have a status, for each status that some file has. -/
def countByStatus (idx : Index) : List (IndexStatus × Nat) :=
  ([.queued, .inProgress, .completed, .failed].map fun status =>
    (status, idx.records.values.countP fun r => r.status == status)).filter fun entry => 0 < entry.2

end Index

end CodeIndex
