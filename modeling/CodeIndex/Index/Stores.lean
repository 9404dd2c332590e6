import CodeIndex.Chunk.Basic
import CodeIndex.Index.Table

/-!
The two stores of texts that are searched by meaning: of chunks, and of summaries.

Texts are kept in a table that only takes rows in; a second table says which file a row belongs to,
so that the rows of a file can be erased. How alike texts are is not modelled: a search gives the
first rows.
-/

namespace CodeIndex

/-- How a table of texts answers when texts are put in. -/
inductive Insertion where
  /-- The texts are stored, and the numbers of their rows given in a list. -/
  | listed
  /-- The texts are stored, and the numbers of their rows given in a sequence that is no list. -/
  | sequenced
  /-- The texts are stored, and nothing is given. -/
  | silent
  /-- Nothing is stored. -/
  | fails (message : String)
  deriving DecidableEq, Repr

/-- Why a store does not answer. -/
inductive StoreFailure where
  | fault (message : String)
  | limitTooLarge
  /-- A command would have to name more rows than it can. -/
  | tooManyRows
  deriving DecidableEq, Repr

def StoreFailure.message : StoreFailure → String
  | .fault message => message
  | .limitTooLarge => "Python int too large to convert to SQLite INTEGER"
  | .tooManyRows => "too many SQL variables"

/-- How many rows a command to the tables can name. -/
def rowsNameable : Nat := 32766

/-- So many rows can be named in one command, where there is a limit. -/
def isNameable (limit : Option Nat) (count : Nat) : Bool :=
  limit.all fun most => count ≤ most

/-- The first rows of a table, at most `limit`, unless the search fails with a message. -/
def searchRows {α : Type} (fault : Option String) (limit : Int) (t : Table α) :
    Except StoreFailure (List α) :=
  match fault with
  | some message => .error (.fault message)
  | none => if isLimit limit then .ok (limited limit t.values) else .error .limitTooLarge

/-- The chunks of all files, and the files that their rows belong to. -/
structure ChunkStore where
  chunks : Table Chunk := {}
  owners : Table String := {}
  deriving DecidableEq, Repr

namespace ChunkStore

/-- Says of rows, whose numbers follow each other, which file they belong to. -/
def own (path : String) (ids : List Nat) (owners : Table String) : Table String :=
  match ids with
  | [] => owners
  | first :: _ =>
    ⟨(owners.rows.filter fun row => row.1 < first) ++ ids.map (fun id => (id, path)) ++
      owners.rows.filter fun row => first + ids.length ≤ row.1⟩

/-- Stores chunks, all as those of the file of the first one, and gives the numbers of their rows.
The rows belong to the file only if the table gives the numbers in a list. -/
def add (insertion : Insertion) (chunks : List Chunk) (s : ChunkStore) :
    Except StoreFailure (List Nat × ChunkStore) :=
  match chunks with
  | [] => .ok ([], s)
  | first :: _ =>
    let ids := s.chunks.nextIds chunks.length
    let stored := { s with chunks := s.chunks.insertAll chunks }
    match insertion with
    | .listed => .ok (ids, { stored with owners := own first.filePath ids s.owners })
    | .sequenced => .ok ([], stored)
    | .silent => .ok ([], stored)
    | .fails message => .error (.fault message)

/-- The rows that belong to a file. -/
def idsOf (path : String) (s : ChunkStore) : List Nat :=
  s.owners.idsWhere (· == path)

/-- The store without the rows that belong to a file. -/
def eraseFile (path : String) (s : ChunkStore) : ChunkStore :=
  { chunks := s.chunks.eraseIds (s.idsOf path)
    owners := s.owners.eraseWhere (· == path) }

/-- Erases the rows that belong to a file, and gives their number. The rows are named one by one, so
a file may have no more of them than a command can name. -/
def deleteFile (limit : Option Nat) (path : String) (s : ChunkStore) :
    Except StoreFailure (Nat × ChunkStore) :=
  let count := (s.idsOf path).length
  if isNameable limit count then .ok (count, s.eraseFile path) else .error .tooManyRows

def search (fault : Option String) (limit : Int) (s : ChunkStore) :
    Except StoreFailure (List Chunk) :=
  searchRows fault limit s.chunks

end ChunkStore

/-- The text of a summary of a file. -/
structure SummaryText where
  path : String
  text : String
  deriving DecidableEq, Repr

/-- The summaries of all files, and the files that their rows belong to. -/
structure SummaryStore where
  texts : Table SummaryText := {}
  owners : Table String := {}
  deriving DecidableEq, Repr

namespace SummaryStore

/-- The row that belongs to a file. -/
def idOf? (path : String) (s : SummaryStore) : Option Nat :=
  (s.owners.idsWhere (· == path)).head?

/-- Erases the row that belongs to a file. -/
def eraseFile (path : String) (s : SummaryStore) : SummaryStore :=
  match s.idOf? path with
  | some id =>
    { texts := s.texts.eraseIds [id]
      owners := s.owners.eraseWhere (· == path) }
  | none => s

/-- Stores the summary of a file in place of the old one, and gives the number of its row, unless
the table gives none. Where the table stores nothing the old summary is gone all the same. -/
def add (insertion : Insertion) (path text : String) (s : SummaryStore) :
    Option Nat × SummaryStore :=
  let s := s.eraseFile path
  let id := s.texts.nextId
  let stored := { s with texts := s.texts.insert ⟨path, text⟩ }
  let owned := { stored with owners := (s.owners.eraseWhere (· == path)).put id path }
  match insertion with
  | .listed => (some id, owned)
  | .sequenced => (some id, owned)
  | .silent => (none, stored)
  | .fails _ => (none, s)

def search (fault : Option String) (limit : Int) (s : SummaryStore) :
    Except StoreFailure (List SummaryText) :=
  searchRows fault limit s.texts

end SummaryStore

end CodeIndex
