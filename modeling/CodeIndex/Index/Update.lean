import CodeIndex.Index.Analysis
import CodeIndex.Project.Files
import CodeIndex.Settings
import CodeIndex.Summary.Basic
import CodeIndex.Text.Digest

/-!
The steps that bring a file into the index, up to date, or out of it.

A file whose text is indexed already is left alone. Otherwise its old chunks are erased before the
text is cut anew; a failure after that leaves a record of the failure and no chunks. If the old
chunks cannot be erased, they stay beside the record of that failure.
-/

namespace CodeIndex

/-- What files are indexed with. -/
structure Indexer where
  settings : Settings
  splitter : Splitter
  /-- The analysis of a file by its path and its text, if there is one; it may break. -/
  analyzer : Option (String → String → Except String Analysis)
  /-- How the tables of texts answer. -/
  insertion : Insertion
  /-- The most rows that a command can name, if there is a limit. -/
  nameable : Option Nat
  /-- There is something to summarize files with, and a store for the summaries. -/
  summarizes : Bool
  /-- The order of the imports in a summary. -/
  order : Summary.SetOrder

/-- The outcome of an attempt to index a file. -/
structure Outcome where
  index : Index
  success : Bool
  /-- Chunks of the file were stored. -/
  stored : Bool := false
  deriving DecidableEq, Repr

/-- A file to summarize. -/
structure SummaryTask where
  path : String
  content : List Char
  language : Option String
  deriving DecidableEq, Repr

/-- The digest of a text. -/
def textDigest (content : List Char) : String :=
  Text.Digest.hex (Text.Utf8.encode content)

namespace Index

/-- Records that a file could not be indexed. -/
def fail (path message : String) (idx : Index) : Index :=
  idx.updateRecord path fun r => { r with status := .failed, error := some message }

/-- Records that a file is being indexed. -/
def start (path : String) (idx : Index) : Index :=
  idx.updateRecord path fun r => { r with status := .inProgress }

/-- Records that a file is indexed. -/
def complete (path digest : String) (chunkCount : Nat) (idx : Index) : Index :=
  idx.updateRecord path fun r =>
    { r with digest, status := .completed, chunkCount, error := none, indexed := true }

/-- The text with the digest is indexed already. -/
def isCurrent (path digest : String) (idx : Index) : Bool :=
  match idx.record? path with
  | some r => r.digest == digest && r.status == .completed
  | none => false

/-- Stores what the analysis of a file finds. An analysis that fails or breaks changes nothing. -/
def analyze (indexer : Indexer) (path : String) (content : List Char) (idx : Index) : Index :=
  match indexer.analyzer with
  | none => idx
  | some analyzer =>
    if indexer.settings.enableAnalysis &&
        (content.length : Int) ≤ indexer.settings.analysisLimit then
      match analyzer path (String.ofList content) with
      | .error _ => idx
      | .ok analysis =>
        match analysis.error? with
        | some _ => idx
        | none =>
          (idx.storeAnalysis path (analysis.symbols.map Symbol.draft)
            (analysis.relationships.map Relationship.draft)).closed
    else idx

/-- Cuts the text of a file, stores its chunks and what its analysis finds. -/
def indexText (indexer : Indexer) (path : String) (content : List Char) (idx : Index) : Outcome :=
  let idx := idx.start path
  match idx.chunkStore.deleteFile indexer.nameable path with
  | .error failure => ⟨idx.fail path failure.message, false, false⟩
  | .ok (_, store) =>
    let idx := { idx with chunkStore := store }
    match Chunk.ofFile indexer.splitter path content with
    | .error failure => ⟨idx.fail path failure.message, false, false⟩
    | .ok chunks =>
      match idx.chunkStore.add indexer.insertion chunks with
      | .error failure => ⟨idx.fail path failure.message, false, false⟩
      | .ok (_, store) =>
        let idx :=
          ({ idx with chunkStore := store }).complete path (textDigest content) chunks.length
        ⟨idx.analyze indexer path content, true, !chunks.isEmpty⟩

/-- Indexes a file, unless it is not there or its text is indexed already. -/
def indexFile (indexer : Indexer) (files : Files) (path : String) (idx : Index) : Outcome :=
  if files.exists? path then
    match files.readText path with
    | .error failure => ⟨idx.fail path failure.message, false, false⟩
    | .ok content =>
      if idx.isCurrent path (textDigest content) then ⟨idx, true, false⟩
      else idx.indexText indexer path content
  else ⟨idx, false, false⟩

/-- Takes the chunks and the record of a file out of the index, if the chunks can be erased. -/
def deleteFile (limit : Option Nat) (path : String) (idx : Index) : Except StoreFailure Index :=
  (idx.chunkStore.deleteFile limit path).map fun (_, chunkStore) =>
    { idx with chunkStore, records := idx.records.eraseWhere fun r => r.path == path }

/-- Changes the summary of a file, which is made if there is none. -/
def putSummary (path summary : String) (language : Option String) (lineCount : Int) (idx : Index) :
    Index :=
  match idx.summaries.find? fun s => s.path == path with
  | some _ =>
    { idx with
      summaries := idx.summaries.updateWhere (fun s => s.path == path) fun s =>
        { s with summary, language, lineCount } }
  | none =>
    { idx with summaries := idx.summaries.insert { path, summary, language, lineCount } }

/-- Stores the summary of a file, also for search if there is a store for that. -/
def storeSummary (indexer : Indexer) (path : String) (summary language : Option String)
    (lineCount : Int) (idx : Index) : Except IndexFailure Index :=
  match summary with
  | none => .error .constraint
  | some summary =>
    if isLimit lineCount then
      let idx := idx.putSummary path summary language lineCount
      .ok (if indexer.summarizes then
        { idx with summaryStore := (idx.summaryStore.add indexer.insertion path summary).2 }
      else idx)
    else .error .numberTooLarge

/-- Summarizes a file and stores the summary; a file without one is left alone. -/
def summarizeFile (indexer : Indexer) (idx : Index) (task : SummaryTask) : Index :=
  match Summary.ofFile indexer.order task.content task.language with
  | .error _ => idx
  | .ok summary =>
    match idx.storeSummary indexer task.path (some summary) task.language
        (Text.lines task.content).length with
    | .ok idx => idx
    | .error _ => idx

/-- Summarizes files one after the other, if summaries are wanted. -/
def summarizeFiles (indexer : Indexer) (tasks : List SummaryTask) (idx : Index) : Index :=
  if indexer.settings.enableSummaries && indexer.summarizes then
    tasks.foldl (summarizeFile indexer) idx
  else idx

end Index

end CodeIndex
