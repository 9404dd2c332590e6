import CodeIndex.Proofs.CallGraph
import CodeIndex.Proofs.Ownership

/-!
A step that is about one file leaves the rows of all other files alone.

The index has a file in eight tables. Rows are found by the path of a record, a summary, a symbol or
a relationship, but in the two stores by numbers, which are given again once rows are erased. That
no number leads to a row of another file is what `Owned` says of the stores; that no analysis writes
under another path is `Indexer.IsLocal`. From these two, every exit of every step is `Confined` to
its file.
-/

namespace CodeIndex

namespace Table

variable {α : Type} {s t : Table α} {p q : α → Bool}

def rowsWhere (t : Table α) (p : α → Bool) : List (Nat × α) :=
  t.rows.filter fun row => p row.2

/-- Where the rows without a property are the same, so are those with another one that excludes
it. -/
private theorem rowsWhere_eq_of_eraseWhere_eq (h : s.eraseWhere p = t.eraseWhere p)
    (hexcludes : ∀ a, q a = true → p a = false) : s.rowsWhere q = t.rowsWhere q := by
  have hsee (u : Table α) : (u.eraseWhere p).rowsWhere q = u.rowsWhere q := by
    unfold rowsWhere eraseWhere
    rw [List.filter_filter]
    apply List.filter_congr
    intro row _
    cases hq : q row.2 with
    | false => rfl
    | true => simp [hexcludes row.2 hq]
  rw [← hsee s, h, hsee]

end Table

structure FileRows where
  records : List (Nat × Record)
  summaries : List (Nat × FileSummary)
  symbols : List (Nat × Symbol)
  relationships : List (Nat × Relationship)
  chunks : List (Nat × Chunk)
  chunkOwners : List (Nat × String)
  texts : List (Nat × SummaryText)
  textOwners : List (Nat × String)
  deriving DecidableEq, Repr

namespace Index

def rowsOf (path : String) (idx : Index) : FileRows :=
  { records := idx.records.rowsWhere fun r => r.path == path
    summaries := idx.summaries.rowsWhere fun s => s.path == path
    symbols := idx.symbols.rowsWhere fun s => s.filePath == path
    relationships := idx.relationships.rowsWhere fun r => r.sourceFile == path
    chunks := idx.chunkStore.chunks.rowsWhere fun c => c.filePath == path
    chunkOwners := idx.chunkStore.owners.rowsWhere (· == path)
    texts := idx.summaryStore.texts.rowsWhere fun s => s.path == path
    textOwners := idx.summaryStore.owners.rowsWhere (· == path) }

structure Owned (idx : Index) : Prop where
  chunks : idx.chunkStore.Owned
  summaries : idx.summaryStore.Owned

/-- A step within the rows of one file: the rows of all other files are the same in every table, and
rows of the stores still belong to the files of their texts. -/
structure Confined (path : String) (idx after : Index) : Prop where
  records : after.records.eraseWhere (fun r => r.path == path) =
    idx.records.eraseWhere fun r => r.path == path
  summaries : after.summaries.eraseWhere (fun s => s.path == path) =
    idx.summaries.eraseWhere fun s => s.path == path
  symbols : after.symbols.eraseWhere (fun s => s.filePath == path) =
    idx.symbols.eraseWhere fun s => s.filePath == path
  relationships : after.relationships.eraseWhere (fun r => r.sourceFile == path) =
    idx.relationships.eraseWhere fun r => r.sourceFile == path
  chunkStore : idx.chunkStore.Confined path after.chunkStore
  summaryStore : idx.summaryStore.Confined path after.summaryStore

section

variable {path other : String} {idx after : Index}

theorem owned_empty : ({} : Index).Owned :=
  ⟨Table.owned_empty, Table.owned_empty, List.nodup_nil⟩

theorem Confined.owned (h : Confined path idx after) : after.Owned :=
  ⟨h.chunkStore.owned, h.summaryStore.owned⟩

theorem Owned.confined (h : idx.Owned) (path : String) : Confined path idx idx :=
  ⟨rfl, rfl, rfl, rfl, h.chunks.confined path, h.summaries.table.confined path, h.summaries.single⟩

private theorem Confined.trans {last : Index} (h₁ : Confined path idx after)
    (h₂ : Confined path after last) : Confined path idx last :=
  ⟨h₂.records.trans h₁.records, h₂.summaries.trans h₁.summaries, h₂.symbols.trans h₁.symbols,
    h₂.relationships.trans h₁.relationships, Table.Confined.trans h₁.chunkStore h₂.chunkStore,
    h₁.summaryStore.trans h₂.summaryStore⟩

/-- A step for one file leaves every row of every other file, with its number. -/
theorem Confined.rowsOf_eq (h : Confined path idx after) (hne : other ≠ path) :
    after.rowsOf other = idx.rowsOf other := by
  have hexcludes {α : Type} (file : α → String) (a : α) :
      (file a == other) = true → (file a == path) = false :=
    distinct_paths hne (file a)
  unfold rowsOf
  rw [Table.rowsWhere_eq_of_eraseWhere_eq h.records (hexcludes Record.path),
    Table.rowsWhere_eq_of_eraseWhere_eq h.summaries (hexcludes FileSummary.path),
    Table.rowsWhere_eq_of_eraseWhere_eq h.symbols (hexcludes Symbol.filePath),
    Table.rowsWhere_eq_of_eraseWhere_eq h.relationships (hexcludes Relationship.sourceFile),
    Table.rowsWhere_eq_of_eraseWhere_eq h.chunkStore.rows (hexcludes Chunk.filePath),
    Table.rowsWhere_eq_of_eraseWhere_eq h.chunkStore.owners (distinct_paths hne),
    Table.rowsWhere_eq_of_eraseWhere_eq h.summaryStore.table.rows (hexcludes SummaryText.path),
    Table.rowsWhere_eq_of_eraseWhere_eq h.summaryStore.table.owners (distinct_paths hne)]

end

section Attempt

variable {indexer : Indexer} {path : String} {idx : Index}

private theorem Owned.updateRecord (h : idx.Owned) (path : String) (f : Record → Record)
    (hpath : ∀ r, (f r).path = r.path) : Confined path idx (idx.updateRecord path f) := by
  have hrecords := (idx.updateRecord_sameBut path f hpath).records
  have hsame := h.confined path
  unfold Index.updateRecord at hrecords ⊢
  cases hrecord : idx.record? path <;>
    simp only [hrecord] at hrecords ⊢ <;>
    exact { hsame with records := hrecords }

private theorem Owned.fail (h : idx.Owned) (path message : String) :
    Confined path idx (idx.fail path message) :=
  h.updateRecord path _ fun _ => rfl

private theorem Owned.withChunks (h : idx.Owned) {chunkStore : ChunkStore}
    (hstore : idx.chunkStore.Confined path chunkStore) :
    Confined path idx { idx with chunkStore } :=
  { h.confined path with chunkStore := hstore }

private theorem Owned.start (h : idx.Owned) (path : String) : Confined path idx (idx.start path) :=
  h.updateRecord path _ fun _ => rfl

theorem Owned.cleared (h : idx.Owned) (path : String) : Confined path idx (idx.cleared path) := by
  have hstart := h.start path
  exact hstart.trans (hstart.owned.withChunks (hstart.owned.chunks.eraseFile path))

private theorem Owned.redrawn (h : idx.Owned) {found : Analysis}
    (hlies : LieIn path found.symbols found.relationships) :
    Confined path idx (idx.redrawn path found) := by
  have hsymbols := (idx.symbols.eraseWhere fun s => s.filePath == path).eraseWhere_insertAll _
    found.symbols fun s member => beq_iff_eq.mpr (hlies.symbols s member)
  have hrelationships :=
    (idx.relationships.eraseWhere fun r => r.sourceFile == path).eraseWhere_insertAll _
      found.relationships fun r member => beq_iff_eq.mpr (hlies.relationships r member)
  rw [Table.eraseWhere_eraseWhere] at hsymbols hrelationships
  exact { h.confined path with symbols := hsymbols, relationships := hrelationships }

/-- An analysis writes rows of its own file only. -/
theorem Owned.analyze (h : idx.Owned) (hlocal : indexer.IsLocal) (path : String)
    (content : List Char) : Confined path idx (idx.analyze indexer path content) := by
  rcases analyze_cases hlocal path content idx with ⟨-, heq⟩ | ⟨found, -, hlies, heq⟩
  · rw [heq]
    exact h.confined path
  · rw [heq]
    exact h.redrawn hlies

/-- To index a text writes rows of its file only, whichever way the attempt ends. -/
theorem Owned.indexText (h : idx.Owned) (hlocal : indexer.IsLocal) (path : String)
    (content : List Char) : Confined path idx (idx.indexText indexer path content).index := by
  have hcleared := h.cleared path
  rcases indexText_cases indexer path content idx with
    heq | ⟨message, heq⟩ | ⟨chunks, ids, chunkStore, hcut, hadd, heq⟩
  · rw [heq]
    exact (h.start path).trans ((h.start path).owned.fail path _)
  · rw [heq]
    exact hcleared.trans (hcleared.owned.fail path message)
  · rw [heq]
    have hstore := hcleared.owned.chunks.add (Chunk.filePath_of_ofFile hcut) hadd
    have hstored := hcleared.trans (hcleared.owned.withChunks hstore)
    let finish : Record → Record := fun r =>
      { r with
        digest := textDigest content, status := .completed, chunkCount := chunks.length,
        error := none, indexed := true }
    have hcompleted := hstored.trans (hstored.owned.updateRecord path finish fun _ => rfl)
    exact hcompleted.trans (hcompleted.owned.analyze hlocal path content)

/-- Every attempt to index a file, whatever the files hold, whatever fails and whatever the tables
answer. -/
theorem Owned.indexFile (h : idx.Owned) (hlocal : indexer.IsLocal) (files : Files)
    (path : String) : Confined path idx (idx.indexFile indexer files path).index := by
  unfold Index.indexFile
  split
  · cases files.readText path with
    | error failure => exact h.fail path _
    | ok content =>
        simp only
        split
        · exact h.confined path
        · exact h.indexText hlocal path content
  · exact h.confined path

end Attempt

section Delete

variable {idx : Index}

theorem Owned.eraseFile (h : idx.Owned) (path : String) :
    Confined path idx (idx.eraseFile path) :=
  { h.confined path with
    records := idx.records.eraseWhere_eraseWhere fun r => r.path == path
    chunkStore := h.chunks.eraseFile path }

/-- A deletion takes rows of its file only. -/
theorem Owned.afterDelete (h : idx.Owned) (limit : Option Nat) (path : String) :
    Confined path idx (idx.afterDelete limit path) := by
  rcases idx.afterDelete_cases limit path with heq | heq
  · rw [heq]
    exact h.eraseFile path
  · rw [heq]
    exact h.confined path

end Delete

section Summaries

variable {indexer : Indexer} {path : String} {idx : Index}

theorem putSummary_eraseWhere (path summary : String) (language : Option String) (lineCount : Int)
    (idx : Index) :
    (idx.putSummary path summary language lineCount).summaries.eraseWhere
        (fun s => s.path == path) =
      idx.summaries.eraseWhere fun s => s.path == path := by
  unfold putSummary
  split
  · exact idx.summaries.eraseWhere_updateWhere (fun s => s.path == path) _ fun _ h => h
  · exact idx.summaries.eraseWhere_insert (fun s => s.path == path) _ (by simp)

theorem Owned.putSummary (h : idx.Owned) (path summary : String) (language : Option String)
    (lineCount : Int) : Confined path idx (idx.putSummary path summary language lineCount) := by
  have hsummaries := putSummary_eraseWhere path summary language lineCount idx
  obtain ⟨summaries, heq⟩ := putSummary_eq path summary language lineCount idx
  rw [heq] at hsummaries ⊢
  exact { h.confined path with summaries := hsummaries }

/-- A summary takes the place of rows of its file only, in both tables. -/
theorem Owned.storeSummary (h : idx.Owned) {summary : String} {language : Option String}
    {lineCount : Int} {after : Index}
    (hstore : idx.storeSummary indexer path (some summary) language lineCount = .ok after) :
    Confined path idx after := by
  have hput := h.putSummary path summary language lineCount
  unfold Index.storeSummary at hstore
  simp only at hstore
  split at hstore
  · cases hstore
    split
    · refine hput.trans { hput.owned.confined path with summaryStore := ?_ }
      exact hput.owned.summaries.add indexer.insertion path summary
    · exact hput
  · cases hstore

theorem Owned.summarizeFile (h : idx.Owned) (indexer : Indexer) (task : SummaryTask) :
    Confined task.path idx (idx.summarizeFile indexer task) := by
  unfold Index.summarizeFile
  cases Summary.ofFile indexer.order task.content task.language with
  | error failure => exact h.confined task.path
  | ok summary =>
      cases hstore : idx.storeSummary indexer task.path (some summary) task.language
          (Text.lines task.content).length with
      | error failure => simpa only [hstore] using h.confined task.path
      | ok after => simpa only [hstore] using h.storeSummary hstore

private theorem Owned.summarizeFiles_owned (h : idx.Owned) (indexer : Indexer)
    (tasks : List SummaryTask) :
    (idx.summarizeFiles indexer tasks).Owned := by
  unfold Index.summarizeFiles
  split
  · exact List.foldlRecOn (motive := Owned) tasks (Index.summarizeFile indexer) h
      fun last hlast task _ => (hlast.summarizeFile indexer task).owned
  · exact h

/-- Summaries of one file only. -/
theorem Owned.summarizeFiles (h : idx.Owned) (indexer : Indexer) {tasks : List SummaryTask}
    (hpath : ∀ task ∈ tasks, task.path = path) :
    Confined path idx (idx.summarizeFiles indexer tasks) := by
  unfold Index.summarizeFiles
  split
  · refine List.foldlRecOn (motive := Confined path idx) tasks (Index.summarizeFile indexer)
      (h.confined path) ?_
    intro last hlast task member
    have hstep := hlast.owned.summarizeFile indexer task
    rw [hpath task member] at hstep
    exact hlast.trans hstep
  · exact h.confined path

end Summaries

end Index

namespace Workspace

variable {w : Workspace}

/-- A workspace of some run from an empty index on, whatever happens in it. -/
def Reachable (w : Workspace) : Prop :=
  Reached (fun _ => True) w

/-- Between two steps the files may change, and what goes wrong. -/
theorem Reachable.surroundings (h : w.Reachable) (files : Files) (faults : Faults) :
    Reachable { w with files, faults } :=
  Reached.surroundings h rfl trivial

/-- In every run the rows of the stores belong to the files of their texts. -/
theorem Reachable.owned (h : w.Reachable) : w.index.Owned := by
  have hboth : True ∧ w.index.Owned := by
    refine h.index_invariant (fun _ _ _ _ => trivial) Index.owned_empty ?_ ?_ ?_
    · intro w path _ howned
      exact (howned.indexFile w.indexer_isLocal w.files path).owned
    · exact fun idx path howned => (howned.eraseFile path).owned
    · exact fun w tasks _ howned => howned.summarizeFiles_owned w.indexer tasks
  exact hboth.2

/-- After any run, indexing a file, deleting it and summarizing it leave the rows of every other
file in all tables as they are, with their numbers, whether they succeed or fail. -/
theorem other_files_keep_their_rows (w : Workspace) (h : w.Reachable) (path other : String)
    (hne : other ≠ path) :
    (w.indexFile path).2.index.rowsOf other = w.index.rowsOf other ∧
    (w.deleteFile path).2.index.rowsOf other = w.index.rowsOf other ∧
    ∀ tasks : List SummaryTask, (∀ task ∈ tasks, task.path = path) →
      (w.summarizeFiles tasks).index.rowsOf other = w.index.rowsOf other := by
  have howned := h.owned
  refine ⟨?_, ?_, ?_⟩
  · rw [indexFile_index]
    exact (howned.indexFile w.indexer_isLocal w.files path).rowsOf_eq hne
  · rw [deleteFile_eq]
    exact (howned.afterDelete w.faults.nameable path).rowsOf_eq hne
  · intro tasks hpath
    rw [summarizeFiles_index]
    exact (howned.summarizeFiles w.indexer hpath).rowsOf_eq hne

/-- Two files are indexed and summarized. Then the table of texts breaks: the first file changes and
cannot be indexed again, its summary is erased and not replaced, and it is deleted. The rows of the
second file, which come after those of the first one, keep their numbers. -/
theorem rows_stay_when_other_file_fails :
    let first : Workspace :=
      { files :=
          { contents := [("a.py", [120]), ("b.py", Text.Utf8.encode "def f():\n g()".toList)] }
        window := ⟨40, 10⟩
        analyzer := some .source }
    let worker : Worker := { rules := none, suffixes := [".py"] }
    let w : Workspace :=
      { (first.cycle true worker).2 with
        files := { contents := [("a.py", [121])] }
        faults := { insert := some "full" } }
    let rows := w.index.rowsOf "b.py"
    let tasks : List SummaryTask := [⟨"a.py", ['y'], some "python"⟩]
    (w.indexFile "a.py").1 = false ∧
      ((w.summarizeFiles tasks).index.rowsOf "a.py").textOwners = [] ∧
      (rows.chunkOwners, rows.textOwners) = ([(2, "b.py")], [(2, "b.py")]) ∧ rows.symbols ≠ [] ∧
      (w.indexFile "a.py").2.index.rowsOf "b.py" = rows ∧
      (w.deleteFile "a.py").2.index.rowsOf "b.py" = rows ∧
      (w.summarizeFiles tasks).index.rowsOf "b.py" = rows := by
  intro first worker w rows tasks
  have hfirst : first.Reachable := .empty rfl trivial
  have hreachable : w.Reachable := Reachable.surroundings (.cycle true worker hfirst) _ _
  obtain ⟨hindex, hdelete, hsummarize⟩ :=
    other_files_keep_their_rows w hreachable "a.py" "b.py" (by decide)
  refine ⟨?_, ?_, ?_, ?_, hindex, hdelete, hsummarize tasks (by simp [tasks])⟩
  all_goals decide +kernel

end Workspace

end CodeIndex
