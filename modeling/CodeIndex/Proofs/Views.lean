import CodeIndex.Proofs.Frame

/-!
What the index holds of one file, whatever the numbers of its rows.

Two indices are `Alike` in a file if they hold the same of it up to numbers. A step that is about
the file takes indices that are alike in it to indices that are alike in it again, since all that a
step reads of the index is about its own file. Besides the view of the file this needs one thing
more of each store: the texts of the file whose rows do not belong to it, and so are not erased with
the others.
-/

namespace CodeIndex

namespace Table

variable {α : Type} {file : α → String} {t : Table α} {owners : Table String} {path : String}

theorem map_snd_rowsWhere (t : Table α) (p : α → Bool) :
    (t.rowsWhere p).map Prod.snd = t.values.filter p := by
  simp [rowsWhere, values, List.filter_map, Function.comp_def]

/-- The texts of a file in rows that do not belong to it: they stay when the others are erased. -/
def strays (file : α → String) (path : String) (t : Table α) (owners : Table String) : List α :=
  (t.eraseIds (owners.idsWhere (· == path))).values.filter fun a => file a == path

/-- Strays are seen in the rows of the file alone. -/
private theorem strays_eq (t : Table α) (owners : Table String) :
    strays file path t owners =
      ((t.rowsWhere fun a => file a == path).filter fun row =>
        !((owners.rowsWhere (· == path)).map Prod.fst).contains row.1).map Prod.snd := by
  have hids : owners.idsWhere (· == path) = (owners.rowsWhere (· == path)).map Prod.fst := rfl
  unfold strays
  rw [← map_snd_rowsWhere, hids]
  simp only [rowsWhere, eraseIds, List.filter_filter]
  congr 1
  apply List.filter_congr
  intro row _
  rw [Bool.and_comm]

private theorem strays_erase (t : Table α) (owners : Table String) :
    strays file path (t.eraseIds (owners.idsWhere (· == path))) (owners.eraseWhere (· == path)) =
      strays file path t owners := by
  have hnone : (owners.eraseWhere (· == path)).idsWhere (· == path) = [] := by
    simp [idsWhere, eraseWhere]
  unfold strays
  rw [hnone]
  simp [eraseIds]

/-- Rows that are put in for a file belong to it, so they are no strays. -/
private theorem Owned.strays_own (h : Owned file t owners) (as : List α) :
    strays file path (t.insertAll as) (ChunkStore.own path (t.nextIds as.length) owners) =
      strays file path t owners := by
  have hrows : (ChunkStore.own path (t.nextIds as.length) owners).rows =
      owners.rows ++ (t.nextIds as.length).map fun id => (id, path) :=
    ChunkStore.rows_own path t.nextId as.length owners h.lt_nextId
  have hids : (ChunkStore.own path (t.nextIds as.length) owners).idsWhere (· == path) =
      owners.idsWhere (· == path) ++ t.nextIds as.length := by
    simp only [idsWhere, hrows, List.filter_append, List.map_append]
    simp [List.filter_map, Function.comp_def]
  have hkept : (t.insertAll as).eraseIds (owners.idsWhere (· == path) ++ t.nextIds as.length) =
      t.eraseIds (owners.idsWhere (· == path)) := by
    apply eq_of_rows_eq
    simp only [eraseIds, rows_insertAll, List.filter_append]
    have hnew : ((t.nextIds as.length).zip as).filter (fun row =>
        !(owners.idsWhere (· == path) ++ t.nextIds as.length).contains row.1) = [] := by
      apply List.filter_eq_nil_iff.mpr
      intro row member
      simp [(List.of_mem_zip member).1]
    rw [hnew, List.append_nil]
    apply List.filter_congr
    intro row member
    -- The numbers of new rows are larger than those of all rows that were there.
    have hold : row.1 ∉ t.nextIds as.length := by
      intro hid
      have hlt := t.lt_nextId row member
      have hle := t.mem_nextIds as.length row.1 hid
      omega
    simp [hold]
  unfold strays
  rw [hids, hkept]

end Table

/-- What the index holds of a file, whatever the numbers of its rows: its records, summaries,
symbols, relationships, chunks and texts of summaries, each in the order of the rows. -/
structure FileView where
  records : List Record
  summaries : List FileSummary
  callGraph : CallGraph
  chunks : List Chunk
  texts : List SummaryText
  deriving DecidableEq, Repr

namespace Index

def recordsOf (path : String) (idx : Index) : List Record :=
  idx.records.values.filter fun r => r.path == path

def summariesOf (path : String) (idx : Index) : List FileSummary :=
  idx.summaries.values.filter fun s => s.path == path

def textsOf (path : String) (idx : Index) : List SummaryText :=
  idx.summaryStore.texts.values.filter fun s => s.path == path

def view (path : String) (idx : Index) : FileView :=
  { records := idx.recordsOf path
    summaries := idx.summariesOf path
    callGraph := idx.callGraph path
    chunks := idx.chunksOf path
    texts := idx.textsOf path }

def strayChunks (path : String) (idx : Index) : List Chunk :=
  Table.strays Chunk.filePath path idx.chunkStore.chunks idx.chunkStore.owners

def strayTexts (path : String) (idx : Index) : List SummaryText :=
  Table.strays SummaryText.path path idx.summaryStore.texts idx.summaryStore.owners

/-- Two indices hold the same of a file up to numbers, and have the same strays of it. -/
structure Alike (path : String) (idx other : Index) : Prop where
  view : other.view path = idx.view path
  strayChunks : other.strayChunks path = idx.strayChunks path
  strayTexts : other.strayTexts path = idx.strayTexts path

section Views

variable {path : String} {idx other : Index}

theorem Alike.refl (path : String) (idx : Index) : Alike path idx idx :=
  ⟨rfl, rfl, rfl⟩

theorem Alike.symm (h : Alike path idx other) : Alike path other idx :=
  ⟨h.view.symm, h.strayChunks.symm, h.strayTexts.symm⟩

theorem Alike.trans {last : Index} (h₁ : Alike path idx other) (h₂ : Alike path other last) :
    Alike path idx last :=
  ⟨h₂.view.trans h₁.view, h₂.strayChunks.trans h₁.strayChunks, h₂.strayTexts.trans h₁.strayTexts⟩

theorem Alike.recordsOf (h : Alike path idx other) : other.recordsOf path = idx.recordsOf path :=
  congrArg FileView.records h.view

private theorem Alike.summariesOf (h : Alike path idx other) :
    other.summariesOf path = idx.summariesOf path :=
  congrArg FileView.summaries h.view

/-- The rows of a file tell all that the index holds of it. -/
private theorem alike_of_rowsOf_eq (h : other.rowsOf path = idx.rowsOf path) :
    Alike path idx other := by
  have hvalues {α : Type} (s t : Table α) (p : α → Bool) (h : s.rowsWhere p = t.rowsWhere p) :
      s.values.filter p = t.values.filter p := by
    rw [← Table.map_snd_rowsWhere, h, Table.map_snd_rowsWhere]
  have hrecords : other.recordsOf path = idx.recordsOf path :=
    hvalues other.records idx.records _ (congrArg FileRows.records h)
  have hsummaries : other.summariesOf path = idx.summariesOf path :=
    hvalues other.summaries idx.summaries _ (congrArg FileRows.summaries h)
  have hsymbols := hvalues other.symbols idx.symbols (fun s => s.filePath == path)
    (congrArg FileRows.symbols h)
  have hrelationships := hvalues other.relationships idx.relationships
    (fun r => r.sourceFile == path) (congrArg FileRows.relationships h)
  have hchunks : other.chunksOf path = idx.chunksOf path :=
    hvalues other.chunkStore.chunks idx.chunkStore.chunks _ (congrArg FileRows.chunks h)
  have htexts : other.textsOf path = idx.textsOf path :=
    hvalues other.summaryStore.texts idx.summaryStore.texts _ (congrArg FileRows.texts h)
  refine ⟨?_, ?_, ?_⟩
  · simp only [Index.view, callGraph, hrecords, hsummaries, hsymbols, hrelationships, hchunks,
      htexts]
  · have hrows : other.chunkStore.chunks.rowsWhere (fun c => c.filePath == path) =
        idx.chunkStore.chunks.rowsWhere fun c => c.filePath == path := congrArg FileRows.chunks h
    have howners : other.chunkStore.owners.rowsWhere (· == path) =
        idx.chunkStore.owners.rowsWhere (· == path) := congrArg FileRows.chunkOwners h
    simp only [Index.strayChunks, Table.strays_eq, hrows, howners]
  · have hrows : other.summaryStore.texts.rowsWhere (fun s => s.path == path) =
        idx.summaryStore.texts.rowsWhere fun s => s.path == path := congrArg FileRows.texts h
    have howners : other.summaryStore.owners.rowsWhere (· == path) =
        idx.summaryStore.owners.rowsWhere (· == path) := congrArg FileRows.textOwners h
    simp only [Index.strayTexts, Table.strays_eq, hrows, howners]

/-- A step about another file does not change what the index holds of a file. -/
theorem Confined.alike {changed : String} (h : Confined changed idx other) (hne : path ≠ changed) :
    Alike path idx other :=
  alike_of_rowsOf_eq (h.rowsOf_eq hne)

/-- The record of a file is the first of its records. -/
theorem record?_eq_head? (path : String) (idx : Index) :
    idx.record? path = (idx.recordsOf path).head? := by
  rw [Index.recordsOf, List.head?_filter]
  rfl

private theorem Alike.isCurrent (h : Alike path idx other) (digest : String) :
    other.isCurrent path digest = idx.isCurrent path digest := by
  unfold Index.isCurrent
  rw [record?_eq_head?, record?_eq_head?, h.recordsOf]

end Views

section Records

variable {path : String} {idx other : Index}

/-- All records of the file are written to, or a new one is made. -/
theorem recordsOf_updateRecord (idx : Index) (path : String) (f : Record → Record)
    (hpath : ∀ r, (f r).path = r.path) :
    (idx.updateRecord path f).recordsOf path =
      if (idx.recordsOf path).isEmpty then [f { path }] else (idx.recordsOf path).map f := by
  have hnone : idx.record? path = none ↔ idx.recordsOf path = [] :=
    idx.records.find?_eq_none_iff fun r => r.path == path
  unfold updateRecord
  cases hrecord : idx.record? path with
  | none =>
      have hold : idx.records.values.filter (fun r => r.path == path) = [] := hnone.mp hrecord
      simp [recordsOf, Table.values_insert, hold, hpath]
  | some r =>
      have hsome : idx.recordsOf path ≠ [] := by simp [← hnone, hrecord]
      rw [if_neg (by simpa using hsome)]
      refine idx.records.filter_values_updateWhere (fun r => r.path == path) f ?_
      intro r h
      rwa [hpath]

theorem updateRecord_eq (idx : Index) (path : String) (f : Record → Record) :
    ∃ records, idx.updateRecord path f = { idx with records } := by
  unfold updateRecord
  split <;> exact ⟨_, rfl⟩

private theorem Alike.updateRecord (h : Alike path idx other) (f : Record → Record)
    (hpath : ∀ r, (f r).path = r.path) :
    Alike path (idx.updateRecord path f) (other.updateRecord path f) := by
  have hrecords : (other.updateRecord path f).recordsOf path =
      (idx.updateRecord path f).recordsOf path := by
    rw [recordsOf_updateRecord _ _ _ hpath, recordsOf_updateRecord _ _ _ hpath, h.recordsOf]
  obtain ⟨_, hidx⟩ := updateRecord_eq idx path f
  obtain ⟨_, hother⟩ := updateRecord_eq other path f
  rw [hidx, hother] at hrecords ⊢
  refine ⟨?_, h.strayChunks, h.strayTexts⟩
  have hview := h.view
  simp only [Index.view, FileView.mk.injEq] at hview ⊢
  exact ⟨hrecords, hview.2⟩

end Records

section Chunks

variable {path : String} {chunks : List Chunk} {idx other : Index}

def unstocked (path : String) (idx : Index) : Index :=
  { idx with chunkStore := idx.chunkStore.eraseFile path }

private theorem Alike.unstocked (h : Alike path idx other) :
    Alike path (idx.unstocked path) (other.unstocked path) := by
  have hstrays (i : Index) : (i.unstocked path).strayChunks path = i.strayChunks path :=
    Table.strays_erase i.chunkStore.chunks i.chunkStore.owners
  refine ⟨?_, ?_, h.strayTexts⟩
  · have hview := h.view
    simp only [Index.view, FileView.mk.injEq] at hview ⊢
    exact ⟨hview.1, hview.2.1, hview.2.2.1, h.strayChunks, hview.2.2.2.2⟩
  · rw [hstrays, hstrays, h.strayChunks]

def stocked (path : String) (chunks : List Chunk) (idx : Index) : Index :=
  { idx with chunkStore := idx.chunkStore.stocked path chunks }

private theorem chunksOf_stocked (idx : Index) (hfile : ∀ c ∈ chunks, c.filePath = path) :
    (idx.stocked path chunks).chunksOf path = idx.chunksOf path ++ chunks := by
  have hall : (chunks.filter fun c => c.filePath == path) = chunks :=
    List.filter_eq_self.mpr fun c member => by simp [hfile c member]
  simp only [chunksOf, ChunkStore.chunksOf, stocked, ChunkStore.stocked, Table.values_insertAll,
    List.filter_append, hall]

private theorem Alike.stocked (h : Alike path idx other) (howned : idx.Owned) (hother : other.Owned)
    (hfile : ∀ c ∈ chunks, c.filePath = path) :
    Alike path (idx.stocked path chunks) (other.stocked path chunks) := by
  have hstrays {i : Index} (hi : i.Owned) :
      (i.stocked path chunks).strayChunks path = i.strayChunks path :=
    Table.Owned.strays_own hi.chunks chunks
  refine ⟨?_, ?_, h.strayTexts⟩
  · have hview := h.view
    simp only [Index.view, FileView.mk.injEq] at hview ⊢
    refine ⟨hview.1, hview.2.1, hview.2.2.1, ?_, hview.2.2.2.2⟩
    rw [chunksOf_stocked other hfile, chunksOf_stocked idx hfile, hview.2.2.2.1]
  · rw [hstrays howned, hstrays hother, h.strayChunks]

end Chunks

section Attempt

variable {indexer : Indexer} {path : String} {content : List Char} {idx other : Index}

private theorem Alike.redrawn (h : Alike path idx other) {found : Analysis}
    (hlies : LieIn path found.symbols found.relationships) :
    Alike path (idx.redrawn path found) (other.redrawn path found) := by
  refine ⟨?_, h.strayChunks, h.strayTexts⟩
  have hview := h.view
  simp only [Index.view, FileView.mk.injEq] at hview ⊢
  refine ⟨hview.1, hview.2.1, ?_, hview.2.2.2⟩
  rw [callGraph_redrawn_self hlies, callGraph_redrawn_self hlies]

private theorem Alike.analyze (h : Alike path idx other) (hlocal : indexer.IsLocal)
    (content : List Char) :
    Alike path (idx.analyze indexer path content) (other.analyze indexer path content) := by
  rcases analyze_cases hlocal path content idx with ⟨hnone, heq⟩ | ⟨found, hfound, hlies, heq⟩
  · rcases analyze_cases hlocal path content other with ⟨-, hsame⟩ | ⟨again, hagain, -, -⟩
    · rw [heq, hsame]
      exact h
    · rw [hnone] at hagain
      cases hagain
  · rcases analyze_cases hlocal path content other with ⟨hnone, -⟩ | ⟨again, hagain, -, hsame⟩
    · rw [hfound] at hnone
      cases hnone
    · rw [hfound] at hagain
      cases hagain
      rw [heq, hsame]
      exact h.redrawn hlies

private theorem Alike.cleared (h : Alike path idx other) :
    Alike path (idx.cleared path) (other.cleared path) :=
  (h.updateRecord (fun r => { r with status := .inProgress }) fun _ => rfl).unstocked

private theorem Alike.fail (h : Alike path idx other) (message : String) :
    Alike path (idx.fail path message) (other.fail path message) :=
  h.updateRecord (fun r => { r with status := .failed, error := some message }) fun _ => rfl

/-- An attempt whose text cannot be cut. -/
theorem indexText_of_not_cut {failure : CutFailure}
    (hfits : isNameable indexer.nameable (idx.chunkStore.idsOf path).length = true)
    (hcut : Chunk.ofFile indexer.splitter path content = .error failure) :
    idx.indexText indexer path content =
      ⟨(idx.cleared path).fail path failure.message, false, false⟩ := by
  obtain ⟨count, hdelete⟩ := chunkStore_start_of_nameable hfits
  unfold indexText
  simp only [hdelete, hcut]
  rfl

/-- An attempt whose text is cut, where the table lists the numbers of new rows. -/
theorem indexText_of_cut {chunks : List Chunk} (hlisted : indexer.insertion = .listed)
    (hfits : isNameable indexer.nameable (idx.chunkStore.idsOf path).length = true)
    (hcut : Chunk.ofFile indexer.splitter path content = .ok chunks) :
    idx.indexText indexer path content =
      ⟨(((idx.cleared path).stocked path chunks).complete path (textDigest content)
        chunks.length).analyze indexer path content, true, !chunks.isEmpty⟩ := by
  obtain ⟨count, hdelete⟩ := chunkStore_start_of_nameable hfits
  have hadd := (idx.cleared path).chunkStore.add_listed (Chunk.filePath_of_ofFile hcut)
  unfold indexText
  simp only [hdelete, hcut, hlisted, hadd]
  rfl

/-- An attempt makes the same of a file in indices that are alike in it, and succeeds in both or in
neither. -/
theorem Alike.indexText (h : Alike path idx other) (howned : idx.Owned) (hother : other.Owned)
    (hlocal : indexer.IsLocal) (hfaultless : indexer.IsFaultless) (content : List Char) :
    Alike path (idx.indexText indexer path content).index
        (other.indexText indexer path content).index ∧
      (other.indexText indexer path content).success =
        (idx.indexText indexer path content).success := by
  cases hcut : Chunk.ofFile indexer.splitter path content with
  | error failure =>
      rw [indexText_of_not_cut (hfaultless.isNameable _) hcut,
        indexText_of_not_cut (hfaultless.isNameable _) hcut]
      exact ⟨h.cleared.fail failure.message, rfl⟩
  | ok chunks =>
      rw [indexText_of_cut hfaultless.listed (hfaultless.isNameable _) hcut,
        indexText_of_cut hfaultless.listed (hfaultless.isNameable _) hcut]
      let finish : Record → Record := fun r =>
        { r with
          digest := textDigest content, status := .completed, chunkCount := chunks.length,
          error := none, indexed := true }
      have hstocked := h.cleared.stocked (howned.cleared path).owned (hother.cleared path).owned
        (Chunk.filePath_of_ofFile hcut)
      have hcompleted := hstocked.updateRecord finish fun _ => rfl
      exact ⟨hcompleted.analyze hlocal content, rfl⟩

/-- All that an attempt to index a file reads of the index is about that file. -/
theorem Alike.indexFile (h : Alike path idx other) (howned : idx.Owned) (hother : other.Owned)
    (hlocal : indexer.IsLocal) (hfaultless : indexer.IsFaultless) (files : Files) :
    Alike path (idx.indexFile indexer files path).index
        (other.indexFile indexer files path).index ∧
      (other.indexFile indexer files path).success =
        (idx.indexFile indexer files path).success := by
  unfold Index.indexFile
  split
  · cases files.readText path with
    | error failure => exact ⟨h.fail failure.message, rfl⟩
    | ok content =>
        simp only [h.isCurrent]
        split
        · exact ⟨h, rfl⟩
        · exact h.indexText howned hother hlocal hfaultless content
  · exact ⟨h, rfl⟩

theorem Alike.eraseFile (h : Alike path idx other) :
    Alike path (idx.eraseFile path) (other.eraseFile path) := by
  have hunstocked := h.unstocked
  have hnone (i : Index) : (i.eraseFile path).recordsOf path = [] := by
    simp [Index.recordsOf, Index.eraseFile, Table.values_eraseWhere]
  refine ⟨?_, hunstocked.strayChunks, h.strayTexts⟩
  have hview := hunstocked.view
  simp only [Index.view, FileView.mk.injEq, hnone, true_and] at hview ⊢
  exact hview.2

end Attempt

section Summaries

variable {indexer : Indexer} {path : String} {idx other : Index}

theorem summariesOf_putSummary (path text : String) (language : Option String) (lineCount : Int)
    (idx : Index) :
    (idx.putSummary path text language lineCount).summariesOf path =
      if (idx.summariesOf path).isEmpty then [{ path, summary := text, language, lineCount }]
      else (idx.summariesOf path).map fun s => { s with summary := text, language, lineCount } := by
  have hnone : idx.summaries.find? (fun s => s.path == path) = none ↔ idx.summariesOf path = [] :=
    idx.summaries.find?_eq_none_iff fun s => s.path == path
  unfold putSummary
  cases hsummary : idx.summaries.find? fun s => s.path == path with
  | none =>
      have hold : idx.summaries.values.filter (fun s => s.path == path) = [] := hnone.mp hsummary
      simp [summariesOf, Table.values_insert, hold]
  | some s =>
      have hsome : idx.summariesOf path ≠ [] := by simp [← hnone, hsummary]
      rw [if_neg (by simpa using hsome)]
      exact idx.summaries.filter_values_updateWhere (fun s => s.path == path) _ fun _ h => h

private theorem Alike.putSummary (h : Alike path idx other) (text : String)
    (language : Option String) (lineCount : Int) :
    Alike path (idx.putSummary path text language lineCount)
      (other.putSummary path text language lineCount) := by
  have hsummaries : (other.putSummary path text language lineCount).summariesOf path =
      (idx.putSummary path text language lineCount).summariesOf path := by
    rw [summariesOf_putSummary, summariesOf_putSummary, h.summariesOf]
  obtain ⟨_, hidx⟩ := putSummary_eq path text language lineCount idx
  obtain ⟨_, hother⟩ := putSummary_eq path text language lineCount other
  rw [hidx, hother] at hsummaries ⊢
  refine ⟨?_, h.strayChunks, h.strayTexts⟩
  have hview := h.view
  simp only [Index.view, FileView.mk.injEq] at hview ⊢
  exact ⟨hview.1, hsummaries, hview.2.2⟩

def retold (path text : String) (idx : Index) : Index :=
  { idx with summaryStore := (idx.summaryStore.add .listed path text).2 }

/-- The new text takes the place of the one that belongs to the file, and the strays stay. -/
theorem Owned.textsOf_retold (h : idx.Owned) (path text : String) :
    (idx.retold path text).textsOf path = idx.strayTexts path ++ [⟨path, text⟩] ∧
      (idx.retold path text).strayTexts path = idx.strayTexts path := by
  have herased := (h.summaries.eraseFile path).owned
  have hstore : (idx.retold path text).summaryStore =
      (idx.summaryStore.eraseFile path).stocked path text :=
    h.summaries.add_eq .listed path text
  have hstrays : Table.strays SummaryText.path path (idx.summaryStore.eraseFile path).texts
      (idx.summaryStore.eraseFile path).owners = idx.strayTexts path := by
    rw [SummaryStore.eraseFile_eq h.summaries.single]
    exact Table.strays_erase idx.summaryStore.texts idx.summaryStore.owners
  have htexts : (idx.summaryStore.eraseFile path).texts.values.filter (fun s => s.path == path) =
      idx.strayTexts path := by
    rw [SummaryStore.eraseFile_eq h.summaries.single]
    rfl
  refine ⟨?_, ?_⟩
  · rw [textsOf, hstore]
    simp only [SummaryStore.stocked, Table.values_insertAll, List.filter_append, htexts]
    simp
  · rw [Index.strayTexts, hstore]
    exact (herased.table.strays_own [⟨path, text⟩]).trans hstrays

theorem Alike.retold (h : Alike path idx other) (howned : idx.Owned) (hother : other.Owned)
    (text : String) : Alike path (idx.retold path text) (other.retold path text) := by
  obtain ⟨htexts, hstrays⟩ := howned.textsOf_retold path text
  obtain ⟨htextsOther, hstraysOther⟩ := hother.textsOf_retold path text
  refine ⟨?_, h.strayChunks, ?_⟩
  · have hview := h.view
    simp only [Index.view, FileView.mk.injEq] at hview ⊢
    refine ⟨hview.1, hview.2.1, hview.2.2.1, hview.2.2.2.1, ?_⟩
    rw [htexts, htextsOther, h.strayTexts]
  · rw [hstrays, hstraysOther, h.strayTexts]

/-- What summarizing a file does: nothing, or it puts a summary that depends on the file alone. -/
private theorem summarizeFile_cases (hlisted : indexer.insertion = .listed) (task : SummaryTask) :
    (∀ idx : Index, idx.summarizeFile indexer task = idx) ∨
    ∃ text, ∀ idx : Index, idx.summarizeFile indexer task =
      let put := idx.putSummary task.path text task.language (Text.lines task.content).length
      if indexer.summarizes then put.retold task.path text else put := by
  unfold summarizeFile
  cases Summary.ofFile indexer.order task.content task.language with
  | error failure => exact Or.inl fun _ => rfl
  | ok text =>
      simp only [storeSummary, hlisted]
      split
      · exact Or.inr ⟨text, fun _ => rfl⟩
      · exact Or.inl fun _ => rfl

/-- A summary is stored alike in indices that are alike in its file. -/
theorem Alike.summarizeFile {task : SummaryTask} (h : Alike task.path idx other)
    (howned : idx.Owned) (hother : other.Owned) (hlisted : indexer.insertion = .listed) :
    Alike task.path (idx.summarizeFile indexer task) (other.summarizeFile indexer task) := by
  rcases summarizeFile_cases hlisted task with hnone | ⟨text, hput⟩
  · rw [hnone, hnone]
    exact h
  · rw [hput, hput]
    have hboth := h.putSummary text task.language (Text.lines task.content).length
    simp only
    split
    · exact hboth.retold (howned.putSummary _ _ _ _).owned (hother.putSummary _ _ _ _).owned text
    · exact hboth

end Summaries

end Index

end CodeIndex
