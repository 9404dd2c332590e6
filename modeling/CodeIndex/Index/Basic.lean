import CodeIndex.Analysis.Basic
import CodeIndex.Index.Stores
import CodeIndex.Text.Quoted

/-!
The index: a record of each file, its chunks, its summary, and the symbols and relationships found
in it.
-/

namespace CodeIndex

inductive IndexStatus where
  | queued
  | inProgress
  | completed
  | failed
  deriving DecidableEq, Repr

namespace IndexStatus

def label : IndexStatus → String
  | .queued => "queued"
  | .inProgress => "in_progress"
  | .completed => "completed"
  | .failed => "failed"

def ofLabel? : String → Option IndexStatus
  | "queued" => some .queued
  | "in_progress" => some .inProgress
  | "completed" => some .completed
  | "failed" => some .failed
  | _ => none

end IndexStatus

/-- How far a file is indexed. -/
structure Record where
  path : String
  /-- The digest of the text that was indexed last, empty if none was. -/
  digest : String := ""
  status : IndexStatus := .queued
  chunkCount : Nat := 0
  error : Option String := none
  /-- The file was indexed at some time. -/
  indexed : Bool := false
  deriving DecidableEq, Repr

/-- The summary of a file. -/
structure FileSummary where
  path : String
  summary : String
  digest : String := ""
  language : Option String
  lineCount : Int
  deriving DecidableEq, Repr

structure Index where
  records : Table Record := {}
  summaries : Table FileSummary := {}
  symbols : Table Symbol := {}
  relationships : Table Relationship := {}
  chunkStore : ChunkStore := {}
  summaryStore : SummaryStore := {}
  deriving DecidableEq, Repr

/-- Why the index does not take something in. -/
inductive IndexFailure where
  /-- A field that has to be there is not, or a path that has a record gets another. -/
  | constraint
  | unknownStatus (label : String)
  | numberTooLarge
  | unwritable (text : Text.Unwritable)
  deriving DecidableEq, Repr

def IndexFailure.message : IndexFailure → String
  | .constraint => "constraint failed"
  | .unknownStatus label =>
    String.ofList (Text.quoted label.toList) ++ " is not a valid IndexStatus"
  | .numberTooLarge => StoreFailure.limitTooLarge.message
  | .unwritable text => text.message

namespace Index

def record? (idx : Index) (path : String) : Option Record :=
  idx.records.find? fun r => r.path == path

/-- Changes the record of a file, which is made if there is none. -/
def updateRecord (path : String) (f : Record → Record) (idx : Index) : Index :=
  match idx.record? path with
  | some _ => { idx with records := idx.records.updateWhere (fun r => r.path == path) f }
  | none => { idx with records := idx.records.insert (f { path }) }

/-- Puts a record in as it is. A path has one record at most. -/
def insertRecord (path : Option String) (status : String) (digest : String) (chunkCount : Nat)
    (error : Option String) (indexed : Bool) (idx : Index) : Except IndexFailure Index :=
  match IndexStatus.ofLabel? status, path with
  | none, _ => .error (.unknownStatus status)
  | some _, none => .error .constraint
  | some status, some path =>
    match idx.record? path with
    | some _ => .error .constraint
    | none =>
      .ok { idx with
        records := idx.records.insert { path, digest, status, chunkCount, error, indexed } }

end Index

end CodeIndex
