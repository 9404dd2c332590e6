import CodeIndex.Index.Query
import CodeIndex.Proofs.Run

/-!
What is left of a file that is deleted from the index.

The index has a file in eight tables. Deleting it empties three of them of the file: the records,
the chunks and their owners. Its summary, its symbols and relationships and the text of its summary
stay, so the questions about calls and imports are answered as if the file were still there. Nothing
is left of a file exactly if nothing but a record and chunks was there before. A file with more
chunks than a command can name rows is not deleted at all.
-/

namespace CodeIndex

namespace Index

structure Unlisted (path : String) (idx : Index) : Prop where
  records : ∀ r ∈ idx.records.values, r.path ≠ path
  chunks : ∀ c ∈ idx.chunkStore.chunks.values, c.filePath ≠ path
  owners : ∀ owner ∈ idx.chunkStore.owners.values, owner ≠ path

structure Undescribed (path : String) (idx : Index) : Prop where
  summaries : ∀ s ∈ idx.summaries.values, s.path ≠ path
  symbols : ∀ s ∈ idx.symbols.values, s.filePath ≠ path
  relationships : ∀ r ∈ idx.relationships.values, r.sourceFile ≠ path
  texts : ∀ t ∈ idx.summaryStore.texts.values, t.path ≠ path
  owners : ∀ owner ∈ idx.summaryStore.owners.values, owner ≠ path

/-- Nothing that stands in a file is reported: who calls a symbol, what it calls, and what a file
imports and is imported by is answered as if the index had no symbols and relationships of the
file. -/
structure Unreported (path : String) (idx : Index) : Prop where
  callers : ∀ symbol limit,
    idx.callers symbol limit = (idx.eraseAnalysis path).callers symbol limit
  callees : ∀ symbol limit,
    idx.callees symbol limit = (idx.eraseAnalysis path).callees symbol limit
  dependencies : ∀ pathNames file direction,
    idx.dependencyTree pathNames file direction =
      (idx.eraseAnalysis path).dependencyTree pathNames file direction

structure Forgotten (path : String) (idx : Index) : Prop where
  unlisted : idx.Unlisted path
  undescribed : idx.Undescribed path
  unreported : idx.Unreported path

section Delete

variable {path : String} {idx : Index}

private theorem Undescribed.eraseAnalysis (h : idx.Undescribed path) :
    idx.eraseAnalysis path = idx := by
  have hsymbols := idx.symbols.eraseWhere_eq_self (fun s => s.filePath == path)
    fun s member => beq_eq_false_iff_ne.mpr (h.symbols s member)
  have hrelationships := idx.relationships.eraseWhere_eq_self (fun r => r.sourceFile == path)
    fun r member => beq_eq_false_iff_ne.mpr (h.relationships r member)
  rw [Index.eraseAnalysis, hsymbols, hrelationships]

private theorem Undescribed.unreported (h : idx.Undescribed path) : idx.Unreported path := by
  refine ⟨?_, ?_, ?_⟩
  · intro symbol limit
    rw [h.eraseAnalysis]
  · intro symbol limit
    rw [h.eraseAnalysis]
  · intro pathNames file direction
    rw [h.eraseAnalysis]

private theorem WellFormed.eraseFile_unlisted (h : idx.WellFormed) (path : String) :
    (idx.eraseFile path).Unlisted path := by
  have hrows := (h.eraseFile path).store.rows_of_chunksOf_eq_nil (h.chunksOf_eraseFile path)
  refine ⟨record?_eq_none_iff.mp (record?_eraseFile path idx), ?_, ?_⟩
  · intro c member
    obtain ⟨row, hrow, rfl⟩ := List.mem_map.mp member
    exact hrows.1 row hrow
  · intro owner member
    obtain ⟨row, hrow, rfl⟩ := List.mem_map.mp member
    exact hrows.2 row hrow

private theorem undescribed_eraseFile_iff (path other : String) (idx : Index) :
    (idx.eraseFile path).Undescribed other ↔ idx.Undescribed other :=
  ⟨fun h => ⟨h.summaries, h.symbols, h.relationships, h.texts, h.owners⟩,
    fun h => ⟨h.summaries, h.symbols, h.relationships, h.texts, h.owners⟩⟩

private theorem WellFormed.eraseFile_forgotten_iff (h : idx.WellFormed) (path : String) :
    (idx.eraseFile path).Forgotten path ↔ idx.Undescribed path := by
  rw [← undescribed_eraseFile_iff path]
  constructor
  · exact fun hforgotten => hforgotten.undescribed
  · intro hundescribed
    exact ⟨h.eraseFile_unlisted path, hundescribed, hundescribed.unreported⟩

end Delete

end Index

namespace Workspace

/-- After any run, a file can be deleted exactly if a command can name the rows of all its chunks,
and nothing about it is left then exactly if the index has not described it. The rows of other files
stay, with their numbers; no summary, symbol or relationship goes, and the questions about calls and
imports are answered as before. -/
theorem deletion_forgets_file_iff (w : Workspace) (h : Reached Lists w) (path : String) :
    let after := (w.deleteFile path).2.index
    (isNameable w.faults.nameable (w.index.chunksOf path).length = true →
      (w.deleteFile path).1 = .ok () ∧
      (after.Forgotten path ↔ w.index.Undescribed path) ∧
      (after.records.rows = w.index.records.rows.filter fun row => row.2.path != path) ∧
      (after.chunkStore.chunks.rows =
        w.index.chunkStore.chunks.rows.filter fun row => row.2.filePath != path) ∧
      (after.chunkStore.owners.rows =
        w.index.chunkStore.owners.rows.filter fun row => row.2 != path)) ∧
    (isNameable w.faults.nameable (w.index.chunksOf path).length = false →
      (w.deleteFile path).1 = .error .tooManyRows ∧ after = w.index) ∧
    after.summaries = w.index.summaries ∧ after.symbols = w.index.symbols ∧
    after.relationships = w.index.relationships ∧ after.summaryStore = w.index.summaryStore ∧
    (∀ symbol limit, after.callers symbol limit = w.index.callers symbol limit) ∧
    (∀ symbol limit, after.callees symbol limit = w.index.callees symbol limit) ∧
    ∀ pathNames file direction,
      after.dependencyTree pathNames file direction =
        w.index.dependencyTree pathNames file direction := by
  intro after
  have hwell := h.orderly.wellFormed
  rcases hwell.deleteFile_cases w.faults.nameable path with ⟨hfits, hdelete⟩ | ⟨hrows, hdelete⟩
  · have hdone : w.deleteFile path = (.ok (), { w with index := w.index.eraseFile path }) := by
      rw [deleteFile, hdelete]
    have hafter : after = w.index.eraseFile path := by simp only [after, hdone]
    rw [hdone, hafter, hfits]
    refine ⟨fun _ => ⟨rfl, hwell.eraseFile_forgotten_iff path, rfl, ?_, rfl⟩, fun hfails => ?_,
      rfl, rfl, rfl, rfl, fun _ _ => rfl, fun _ _ => rfl, fun _ _ _ => rfl⟩
    · change (w.index.chunkStore.eraseFile path).chunks.rows = _
      rw [hwell.store.eraseFile_eq]
      rfl
    · cases hfails
  · have hdone : w.deleteFile path = (.error .tooManyRows, w) := by rw [deleteFile, hdelete]
    have hafter : after = w.index := by simp only [after, hdone]
    rw [hdone, hafter, hrows]
    refine ⟨fun hfits => ?_, fun _ => ⟨rfl, rfl⟩, rfl, rfl, rfl, rfl, fun _ _ => rfl,
      fun _ _ => rfl, fun _ _ _ => rfl⟩
    cases hfits

/-- A file without a definition or a call is indexed beside another one, and no summaries are made:
it is forgotten when it is deleted. -/
theorem deletion_forgets_undescribed_file :
    let first : Workspace :=
      { files := { contents := [("a.py", Text.Utf8.encode "x".toList),
          ("b.py", Text.Utf8.encode "def f():\n g()".toList)] }
        window := ⟨40, 10⟩
        analyzer := some .source
        summarizes := false }
    let w := (first.cycle true { rules := none, suffixes := [".py"] }).2
    w.index.chunkStore.owners.values = ["a.py", "b.py"] ∧
      w.index.symbols.values.map Symbol.filePath = ["b.py"] ∧
      (w.deleteFile "a.py").2.index.Forgotten "a.py" := by
  intro first w
  have hreached : Reached Lists w := .cycle true _ (.empty rfl rfl)
  have hundescribed : w.index.Undescribed "a.py" :=
    ⟨by decide +kernel, by decide +kernel, by decide +kernel, by decide +kernel,
      by decide +kernel⟩
  exact ⟨by decide +kernel, by decide +kernel,
    ((deletion_forgets_file_iff w hreached "a.py").1 (by decide +kernel)).2.1.mpr hundescribed⟩

/-- A file is indexed and summarized in a cycle and then deleted. Its symbols, the calls in it, its
summary and the text of the summary are still there. -/
theorem deletion_leaves_descriptions :
    let first : Workspace :=
      { files := { contents := [("a.py", Text.Utf8.encode "def f():\n g()".toList)] }
        window := ⟨40, 10⟩
        analyzer := some .source }
    let w := (first.cycle true { rules := none, suffixes := [".py"] }).2
    let after := (w.deleteFile "a.py").2.index
    (after.callers "g" 50).toOption = some [⟨"f", "a.py", 2, some .function, some "f()"⟩] ∧
      after.symbols.values.map Symbol.filePath = ["a.py"] ∧
      after.relationships.values.map Relationship.sourceFile = ["a.py"] ∧
      after.summaries.values.map FileSummary.path = ["a.py"] ∧
      after.summaryStore.texts.values.map SummaryText.path = ["a.py"] ∧
      after.summaryStore.owners.values = ["a.py"] := by
  decide +kernel

end Workspace

end CodeIndex
