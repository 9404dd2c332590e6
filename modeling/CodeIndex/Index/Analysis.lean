import CodeIndex.Index.Basic

/-!
The symbols and relationships of a file in the index, and their replacement by those of an analysis.

The old rows are erased and the new ones put in one after the other, each of which may fail. This
is done in a transaction: what the writes before a failure did is taken back.
-/

namespace CodeIndex

/-- A symbol in which fields may be missing that the index needs. -/
structure SymbolDraft where
  name : Option String
  kind : Option SymbolKind
  lineStart : Option Nat
  lineEnd : Option Nat
  signature : Option String := none
  docText : Option Text.CodeText := none
  parent : Option String := none
  isExported : Bool := true
  deriving DecidableEq, Repr

/-- A relationship in which fields may be missing that the index needs. -/
structure RelationshipDraft where
  sourceFile : Option String
  source : Option String
  line : Option Nat
  targetFile : Option String := none
  target : Option String
  kind : Option RelationshipKind
  isExternal : Bool := false
  deriving DecidableEq, Repr

/-- The symbol of a file, if no field is missing. -/
def SymbolDraft.complete? (path : String) (d : SymbolDraft) : Option Symbol := do
  return {
    name := ← d.name
    kind := ← d.kind
    filePath := path
    lineStart := ← d.lineStart
    lineEnd := ← d.lineEnd
    signature := d.signature
    docText := d.docText
    parent := d.parent
    isExported := d.isExported }

/-- The relationship, if no field is missing. -/
def RelationshipDraft.complete? (d : RelationshipDraft) : Option Relationship := do
  return {
    sourceFile := ← d.sourceFile
    source := ← d.source
    line := ← d.line
    targetFile := d.targetFile
    target := ← d.target
    kind := ← d.kind
    isExternal := d.isExternal }

/-- A symbol with all its fields. -/
def Symbol.draft (s : Symbol) : SymbolDraft :=
  { name := some s.name
    kind := some s.kind
    lineStart := some s.lineStart
    lineEnd := some s.lineEnd
    signature := s.signature
    docText := s.docText
    parent := s.parent
    isExported := s.isExported }

/-- A relationship with all its fields. -/
def Relationship.draft (r : Relationship) : RelationshipDraft :=
  { sourceFile := some r.sourceFile
    source := some r.source
    line := some r.line
    targetFile := r.targetFile
    target := some r.target
    kind := some r.kind
    isExternal := r.isExternal }

/-- A line number that a table can hold. -/
def isLineNumber (line : Nat) : Bool :=
  isLimit line

/-- The first value of a symbol that no table can hold. -/
def SymbolDraft.unwritable? (d : SymbolDraft) : Option IndexFailure :=
  if d.lineStart.all isLineNumber && d.lineEnd.all isLineNumber then
    (d.docText.bind Text.CodeText.unwritable?).map .unwritable
  else some .numberTooLarge

/-- The value of a relationship that no table can hold. -/
def RelationshipDraft.unwritable? (d : RelationshipDraft) : Option IndexFailure :=
  if d.line.all isLineNumber then none else some .numberTooLarge

/-- A row that can be put into a table: first all its values have to be such that a table can hold
them, and then no field may be missing. -/
def checkedRow {α : Type} (unwritable? : Option IndexFailure) (complete? : Option α) :
    Except IndexFailure α :=
  match unwritable?, complete? with
  | some failure, _ => .error failure
  | none, some row => .ok row
  | none, none => .error .constraint

def SymbolDraft.row (path : String) (d : SymbolDraft) : Except IndexFailure Symbol :=
  checkedRow d.unwritable? (d.complete? path)

def RelationshipDraft.row (d : RelationshipDraft) : Except IndexFailure Relationship :=
  checkedRow d.unwritable? d.complete?

namespace Index

/-- Erases the symbols of a file and the relationships that start in it. -/
def eraseAnalysis (path : String) (idx : Index) : Index :=
  { idx with
    symbols := idx.symbols.eraseWhere fun s => s.filePath == path
    relationships := idx.relationships.eraseWhere fun r => r.sourceFile == path }

/-- A write to the symbols and relationships. -/
inductive Write where
  | erase (path : String)
  | symbol (path : String) (draft : SymbolDraft)
  | relationship (draft : RelationshipDraft)
  deriving DecidableEq, Repr

def Write.apply (idx : Index) : Write → Except IndexFailure Index
  | .erase path => .ok (idx.eraseAnalysis path)
  | .symbol path draft =>
    (draft.row path).map fun s => { idx with symbols := idx.symbols.insert s }
  | .relationship draft =>
    draft.row.map fun r => { idx with relationships := idx.relationships.insert r }

/-- Writes that are kept together or not at all. -/
structure Transaction where
  /-- The index without the writes. -/
  saved : Index
  /-- The index with the writes that were made so far. -/
  working : Index := saved
  /-- Why a write failed, after which no other is made. -/
  failure : Option IndexFailure := none
  deriving DecidableEq, Repr

namespace Transaction

def write (t : Transaction) (w : Write) : Transaction :=
  match t.failure with
  | some _ => t
  | none =>
    match w.apply t.working with
    | .ok working => { t with working }
    | .error failure => { t with failure := some failure }

/-- The index after the transaction: its writes are kept, or taken back if one failed. -/
def closed (t : Transaction) : Index :=
  match t.failure with
  | none => t.working
  | some _ => t.saved

end Transaction

/-- Replaces the symbols and relationships of a file. The old ones are erased first; new rows are
put in when the transaction ends, relationships before symbols. -/
def storeAnalysis (path : String) (symbols : List SymbolDraft)
    (relationships : List RelationshipDraft) (idx : Index) : Transaction :=
  let writes := .erase path :: (relationships.map .relationship ++ symbols.map (.symbol path))
  writes.foldl Transaction.write { saved := idx }

end Index

end CodeIndex
