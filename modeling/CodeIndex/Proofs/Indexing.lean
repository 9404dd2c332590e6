import CodeIndex.Index.Update
import CodeIndex.Proofs.ChunkStore
import CodeIndex.Proofs.Transaction

/-!
What indexing a file and deleting it do to the records and the chunks of the index.

An attempt to index a file has several exits, before and after the old chunks are erased, and one
where they cannot be. `Ending` lists them with what each leaves of the file, and `SameBut` says that
no row of another file is touched on any of them. Later modules reason from these two alone. The
symbols, relationships and summaries are left aside; `analyze_eq` and `summarizeFiles_eq` say that
they are all that an analysis and a summary change.
-/

namespace CodeIndex

theorem Chunk.filePath_of_ofFile {splitter : Splitter} {path : String} {content : List Char}
    {chunks : List Chunk} (h : Chunk.ofFile splitter path content = .ok chunks) :
    ∀ c ∈ chunks, c.filePath = path := by
  unfold Chunk.ofFile at h
  cases hpieces : splitter (Language.ofPath? path) content with
  | error failure =>
      rw [hpieces] at h
      cases h
  | ok pieces =>
      rw [hpieces] at h
      cases h
      intro c member
      obtain ⟨piece, -, rfl⟩ := List.mem_map.mp member
      rfl

/-- The tables of texts list the numbers of new rows, and a command can name any number of rows. -/
structure Indexer.IsFaultless (indexer : Indexer) : Prop where
  listed : indexer.insertion = .listed
  unlimited : indexer.nameable = none

theorem Indexer.IsFaultless.definite {indexer : Indexer} (h : indexer.IsFaultless) :
    indexer.insertion.IsDefinite :=
  Insertion.isDefinite_of_eq_listed h.listed

theorem Indexer.IsFaultless.isNameable {indexer : Indexer} (h : indexer.IsFaultless)
    (count : Nat) : isNameable indexer.nameable count = true := by
  rw [h.unlimited]
  rfl

namespace Index

def chunksOf (path : String) (idx : Index) : List Chunk :=
  idx.chunkStore.chunksOf path

def recordOr (path : String) (idx : Index) : Record :=
  (idx.record? path).getD { path }

structure WellFormed (idx : Index) : Prop where
  store : idx.chunkStore.Sound
  unique : (idx.records.values.map Record.path).Nodup

structure SameBut (path : String) (idx after : Index) : Prop where
  records : after.records.eraseWhere (fun r => r.path == path) =
    idx.records.eraseWhere fun r => r.path == path
  chunks : after.chunkStore.chunks.eraseWhere (fun c => c.filePath == path) =
    idx.chunkStore.chunks.eraseWhere fun c => c.filePath == path

section Views

variable {idx after : Index} {path other : String}

theorem path_of_record? {r : Record} (h : idx.record? path = some r) : r.path = path := by
  simpa using List.find?_some h

theorem record?_eq_none_iff :
    idx.record? path = none ↔ ∀ r ∈ idx.records.values, r.path ≠ path := by
  simp [record?, Table.find?]

/-- A file is current if its record is completed and has the digest of its text. -/
theorem isCurrent_eq_true_iff {digest : String} :
    idx.isCurrent path digest = true ↔
      ∃ r, idx.record? path = some r ∧ r.digest = digest ∧ r.status = .completed := by
  unfold isCurrent
  cases idx.record? path with
  | none => simp
  | some r => simp

/-- Where a path has one record at most, every record is that of its path. -/
theorem record?_of_mem (hunique : (idx.records.values.map Record.path).Nodup) {r : Record}
    (member : r ∈ idx.records.values) : idx.record? r.path = some r := by
  unfold record? Table.find?
  generalize idx.records.values = records at member hunique
  induction records with
  | nil => cases member
  | cons first rest ih =>
      obtain ⟨hfirst, hrest⟩ := List.nodup_cons.mp hunique
      rcases List.mem_cons.mp member with rfl | htail
      · simp
      · have hne : first.path ≠ r.path := by
          intro heq
          rw [heq] at hfirst
          exact hfirst (List.mem_map_of_mem htail)
        simp only [List.find?_cons, beq_eq_false_iff_ne.mpr hne]
        exact ih htail hrest

/-- In an index that is well formed every record is found by its path. -/
theorem WellFormed.record?_of_mem (h : idx.WellFormed) {r : Record}
    (member : r ∈ idx.records.values) : idx.record? r.path = some r :=
  Index.record?_of_mem h.unique member

theorem wellFormed_empty : ({} : Index).WellFormed :=
  ⟨ChunkStore.sound_empty, List.nodup_nil⟩

theorem SameBut.refl (path : String) (idx : Index) : SameBut path idx idx :=
  ⟨rfl, rfl⟩

private theorem SameBut.trans {last : Index} (h₁ : SameBut path idx after)
    (h₂ : SameBut path after last) : SameBut path idx last :=
  ⟨h₂.records.trans h₁.records, h₂.chunks.trans h₁.chunks⟩

theorem distinct_paths (hne : other ≠ path) (text : String)
    (h : (text == other) = true) : (text == path) = false := by
  have heq : text = other := by simpa using h
  subst text
  simpa using hne

/-- The record of any other file is found as before. -/
theorem SameBut.record?_eq (h : SameBut path idx after) (hne : other ≠ path) :
    after.record? other = idx.record? other := by
  have hsee (t : Table Record) :
      (t.eraseWhere fun r => r.path == path).find? (fun r => r.path == other) =
        t.find? fun r => r.path == other :=
    t.find?_eraseWhere _ _ fun r => distinct_paths hne r.path
  unfold record?
  rw [← hsee after.records, h.records, hsee]

theorem SameBut.chunksOf_eq (h : SameBut path idx after) (hne : other ≠ path) :
    after.chunksOf other = idx.chunksOf other := by
  have hsee (t : Table Chunk) :
      (t.eraseWhere fun c => c.filePath == path).values.filter (fun c => c.filePath == other) =
        t.values.filter fun c => c.filePath == other :=
    t.filter_values_eraseWhere _ _ fun c => distinct_paths hne c.filePath
  unfold chunksOf ChunkStore.chunksOf
  rw [← hsee after.chunkStore.chunks, h.chunks, hsee]

end Views

section Parts

variable {idx : Index} {path : String}

theorem updateRecord_chunkStore (idx : Index) (path : String) (f : Record → Record) :
    (idx.updateRecord path f).chunkStore = idx.chunkStore := by
  unfold updateRecord
  split <;> rfl

/-- A change of a record that keeps its path is seen in the record of that path. -/
theorem record?_updateRecord (idx : Index) (path : String) (f : Record → Record)
    (hpath : ∀ r, (f r).path = r.path) :
    (idx.updateRecord path f).record? path = some (f (idx.recordOr path)) := by
  unfold updateRecord recordOr
  cases hrecord : idx.record? path with
  | none =>
      have hnone : idx.records.values.find? (fun r => r.path == path) = none := hrecord
      simp [record?, Table.find?, Table.values_insert, List.find?_append, hnone, hpath]
  | some r =>
      have hsome : idx.records.values.find? (fun r => r.path == path) = some r := hrecord
      have hsame : ((fun r : Record => r.path == path) ∘
          fun r => if r.path == path then f r else r) = fun r => r.path == path := by
        funext r
        simp only [Function.comp_apply]
        split <;> simp [hpath]
      have hr : r.path = path := path_of_record? hrecord
      change (idx.records.updateWhere (fun r => r.path == path) f).values.find? _ = _
      rw [Table.values_updateWhere, List.find?_map, hsame, hsome]
      simp [hr]

/-- To write into the record of a file leaves the other files alone. -/
theorem updateRecord_sameBut (idx : Index) (path : String) (f : Record → Record)
    (hpath : ∀ r, (f r).path = r.path) : SameBut path idx (idx.updateRecord path f) := by
  refine ⟨?_, by rw [updateRecord_chunkStore]⟩
  unfold updateRecord
  split
  · refine idx.records.eraseWhere_updateWhere (fun r => r.path == path) f ?_
    intro r h
    rwa [hpath]
  · exact idx.records.eraseWhere_insert (fun r => r.path == path) _ (by simp [hpath])

theorem unique_updateRecord (h : (idx.records.values.map Record.path).Nodup) (f : Record → Record)
    (hpath : ∀ r, (f r).path = r.path) :
    ((idx.updateRecord path f).records.values.map Record.path).Nodup := by
  unfold Index.updateRecord
  split
  · rw [Table.map_values_updateWhere _ _ hpath]
    exact h
  · rename_i hnone
    refine Table.nodup_map_values_insert h ?_
    rw [hpath]
    exact record?_eq_none_iff.mp hnone

private theorem WellFormed.updateRecord (h : idx.WellFormed) (f : Record → Record)
    (hpath : ∀ r, (f r).path = r.path) : (idx.updateRecord path f).WellFormed :=
  ⟨by rw [updateRecord_chunkStore]; exact h.store, unique_updateRecord h.unique f hpath⟩

/-- The index when the text of a file is about to be cut: its record tells so, and its old chunks
are gone. -/
def cleared (path : String) (idx : Index) : Index :=
  { idx.start path with chunkStore := (idx.start path).chunkStore.eraseFile path }

private theorem chunkStore_start (path : String) (idx : Index) :
    (idx.start path).chunkStore = idx.chunkStore :=
  idx.updateRecord_chunkStore path _

private theorem start_sameBut (path : String) (idx : Index) : SameBut path idx (idx.start path) :=
  idx.updateRecord_sameBut path _ fun _ => rfl

private theorem WellFormed.start (h : idx.WellFormed) (path : String) :
    (idx.start path).WellFormed :=
  h.updateRecord (fun r => { r with status := .inProgress }) fun _ => rfl

private theorem WellFormed.cleared (h : idx.WellFormed) (path : String) :
    (idx.cleared path).WellFormed :=
  ⟨(h.start path).store.eraseFile path, (h.start path).unique⟩

private theorem WellFormed.cleared_sameBut (h : idx.WellFormed) (path : String) :
    SameBut path idx (idx.cleared path) := by
  refine (start_sameBut path idx).trans ⟨rfl, ?_⟩
  change ((idx.start path).chunkStore.eraseFile path).chunks.eraseWhere _ = _
  rw [(h.start path).store.eraseFile_eq]
  exact (idx.start path).chunkStore.chunks.eraseWhere_eraseWhere fun c => c.filePath == path

private theorem WellFormed.chunksOf_cleared (h : idx.WellFormed) (path : String) :
    (idx.cleared path).chunksOf path = [] :=
  (h.start path).store.chunksOf_eraseFile_self path

def refused (path : String) (idx : Index) : Index :=
  (idx.start path).fail path StoreFailure.tooManyRows.message

/-- When an attempt starts, the record of its file says so and is otherwise as it was. -/
theorem recordOr_start (path : String) (idx : Index) :
    (idx.start path).recordOr path = { idx.recordOr path with status := .inProgress } := by
  have hstart := idx.record?_updateRecord path (fun r => { r with status := .inProgress })
    fun _ => rfl
  rw [recordOr, start, hstart]
  rfl

theorem recordOr_cleared (path : String) (idx : Index) :
    (idx.cleared path).recordOr path = { idx.recordOr path with status := .inProgress } :=
  idx.recordOr_start path

private theorem closed_storeAnalysis_eq (path : String) (symbols : List SymbolDraft)
    (relationships : List RelationshipDraft) (idx : Index) :
    ∃ symbolTable relationshipTable, (idx.storeAnalysis path symbols relationships).closed =
      { idx with symbols := symbolTable, relationships := relationshipTable } := by
  rcases idx.storeAnalysis_cases path symbols relationships with
    ⟨symbolRows, relationshipRows, -, -, -, hclosed⟩ | ⟨-, -, hclosed⟩
  · exact ⟨_, _, hclosed⟩
  · exact ⟨idx.symbols, idx.relationships, hclosed⟩

/-- An analysis changes symbols and relationships only. -/
theorem analyze_eq (indexer : Indexer) (path : String) (content : List Char) (idx : Index) :
    ∃ symbols relationships,
      idx.analyze indexer path content = { idx with symbols, relationships } := by
  have hsame : ∃ symbols relationships, idx = { idx with symbols, relationships } :=
    ⟨idx.symbols, idx.relationships, rfl⟩
  unfold analyze
  repeat' split
  all_goals try exact hsame
  exact closed_storeAnalysis_eq path _ _ idx

/-- A summary is written to the table of summaries only. -/
theorem putSummary_eq (path text : String) (language : Option String) (lineCount : Int)
    (idx : Index) :
    ∃ summaries, idx.putSummary path text language lineCount = { idx with summaries } := by
  unfold putSummary
  split <;> exact ⟨_, rfl⟩

private theorem storeSummary_eq {indexer : Indexer} {text : String} {language : Option String}
    {lineCount : Int} {after : Index}
    (h : idx.storeSummary indexer path (some text) language lineCount = .ok after) :
    ∃ summaries summaryStore, after = { idx with summaries, summaryStore } := by
  obtain ⟨summaries, hput⟩ := putSummary_eq path text language lineCount idx
  unfold storeSummary at h
  simp only [hput] at h
  split at h
  · cases h
    split <;> exact ⟨_, _, rfl⟩
  · cases h

private theorem summarizeFile_eq (indexer : Indexer) (idx : Index) (task : SummaryTask) :
    ∃ summaries summaryStore,
      idx.summarizeFile indexer task = { idx with summaries, summaryStore } := by
  have hsame : ∃ summaries summaryStore, idx = { idx with summaries, summaryStore } :=
    ⟨idx.summaries, idx.summaryStore, rfl⟩
  unfold summarizeFile
  cases Summary.ofFile indexer.order task.content task.language with
  | error failure => exact hsame
  | ok summary =>
      cases hstore : idx.storeSummary indexer task.path (some summary) task.language
          (Text.lines task.content).length with
      | error failure => simpa only [hstore] using hsame
      | ok after => simpa only [hstore] using storeSummary_eq hstore

/-- Summaries of files change the summaries and the store of their texts only. -/
theorem summarizeFiles_eq (indexer : Indexer) (tasks : List SummaryTask) (idx : Index) :
    ∃ summaries summaryStore,
      idx.summarizeFiles indexer tasks = { idx with summaries, summaryStore } := by
  unfold summarizeFiles
  split
  · induction tasks generalizing idx with
    | nil => exact ⟨idx.summaries, idx.summaryStore, rfl⟩
    | cons task rest ih =>
        obtain ⟨summaries, summaryStore, hfirst⟩ := summarizeFile_eq indexer idx task
        rw [List.foldl_cons, hfirst]
        exact ih _
  · exact ⟨idx.summaries, idx.summaryStore, rfl⟩

theorem WellFormed.summarizeFiles (h : idx.WellFormed) (indexer : Indexer)
    (tasks : List SummaryTask) : (idx.summarizeFiles indexer tasks).WellFormed := by
  obtain ⟨summaries, summaryStore, heq⟩ := summarizeFiles_eq indexer tasks idx
  rw [heq]
  exact ⟨h.store, h.unique⟩

end Parts

section Attempt

variable {indexer : Indexer} {files : Files} {path : String} {idx : Index}

/-- The exits of an attempt to index a file: what leads to each, and what the index then holds of
the file. The Boolean tells whether the attempt is a success. -/
inductive Ending (indexer : Indexer) (files : Files) (path : String) (idx after : Index) :
    Bool → Prop where
  | missing (hexists : files.exists? path = false) (hsame : after = idx) :
      Ending indexer files path idx after false
  | unreadable (failure : ReadFailure) (hread : files.readText path = .error failure)
      (hrecord : after.record? path = some
        { idx.recordOr path with status := .failed, error := some failure.message })
      (hchunks : after.chunksOf path = idx.chunksOf path) :
      Ending indexer files path idx after false
  | current (content : List Char) (hread : files.readText path = .ok content)
      (hcurrent : idx.isCurrent path (textDigest content) = true) (hsame : after = idx) :
      Ending indexer files path idx after true
  | failed (content : List Char) (message : String) (hread : files.readText path = .ok content)
      (hstale : idx.isCurrent path (textDigest content) = false)
      (hfits : isNameable indexer.nameable (idx.chunksOf path).length = true)
      (hcause : (∃ failure, Chunk.ofFile indexer.splitter path content = .error failure) ∨
        ∃ message, indexer.insertion = .fails message)
      (hrecord : after.record? path = some
        { idx.recordOr path with status := .failed, error := some message })
      (hchunks : after.chunksOf path = []) :
      Ending indexer files path idx after false
  | refused (content : List Char) (hread : files.readText path = .ok content)
      (hstale : idx.isCurrent path (textDigest content) = false)
      (hrows : isNameable indexer.nameable (idx.chunksOf path).length = false)
      (hrecord : after.record? path = some
        { idx.recordOr path with
          status := .failed, error := some StoreFailure.tooManyRows.message })
      (hchunks : after.chunksOf path = idx.chunksOf path) :
      Ending indexer files path idx after false
  | stored (content : List Char) (chunks : List Chunk) (hread : files.readText path = .ok content)
      (hstale : idx.isCurrent path (textDigest content) = false)
      (hfits : isNameable indexer.nameable (idx.chunksOf path).length = true)
      (hcut : Chunk.ofFile indexer.splitter path content = .ok chunks)
      (hrecord : after.record? path = some
        { path, digest := textDigest content, status := .completed, chunkCount := chunks.length,
          error := none, indexed := true })
      (hchunks : after.chunksOf path = chunks) :
      Ending indexer files path idx after true

/-- An attempt ends at one of the exits, leaves the other files alone, and the index well formed. -/
structure Attempted (indexer : Indexer) (files : Files) (path : String) (idx : Index)
    (outcome : Outcome) : Prop where
  ending : Ending indexer files path idx outcome.index outcome.success
  sameBut : SameBut path idx outcome.index
  wellFormed : outcome.index.WellFormed

private theorem path_recordOr (path : String) (idx : Index) : (idx.recordOr path).path = path := by
  unfold recordOr
  cases hrecord : idx.record? path with
  | none => rfl
  | some r => exact path_of_record? hrecord

private theorem WellFormed.fail (h : idx.WellFormed) (path message : String) :
    (idx.fail path message).WellFormed :=
  h.updateRecord (fun r => { r with status := .failed, error := some message }) fun _ => rfl

/-- A failure keeps the digest and the number of chunks of the record. -/
theorem record?_fail (path message : String) (idx : Index) :
    (idx.fail path message).record? path =
      some { idx.recordOr path with status := .failed, error := some message } :=
  idx.record?_updateRecord path (fun r => { r with status := .failed, error := some message })
    fun _ => rfl

/-- A success leaves nothing of the record before it. -/
theorem record?_complete (path digest : String) (chunkCount : Nat) (idx : Index) :
    (idx.complete path digest chunkCount).record? path = some
      { path, digest, status := .completed, chunkCount, error := none, indexed := true } := by
  let finish : Record → Record := fun r =>
    { r with digest, status := .completed, chunkCount, error := none, indexed := true }
  refine (idx.record?_updateRecord path finish fun _ => rfl).trans ?_
  simp only [finish, path_recordOr]

private theorem fail_sameBut (path message : String) (idx : Index) :
    SameBut path idx (idx.fail path message) :=
  idx.updateRecord_sameBut path _ fun _ => rfl

private theorem chunksOf_fail (path message : String) (idx : Index) :
    (idx.fail path message).chunksOf path = idx.chunksOf path := by
  rw [chunksOf, fail, updateRecord_chunkStore, chunksOf]

/-- The old chunks are erased before the text is cut, if a command can name their rows. -/
theorem chunkStore_start_cases (indexer : Indexer) (path : String) (idx : Index) :
    (isNameable indexer.nameable (idx.chunkStore.idsOf path).length = true ∧
      ∃ count, (idx.start path).chunkStore.deleteFile indexer.nameable path =
        .ok (count, (idx.cleared path).chunkStore)) ∨
    (isNameable indexer.nameable (idx.chunkStore.idsOf path).length = false ∧
      (idx.start path).chunkStore.deleteFile indexer.nameable path = .error .tooManyRows) := by
  rw [cleared, chunkStore_start]
  exact (idx.chunkStore.deleteFile_cases indexer.nameable path).imp_left fun h => ⟨h.1, _, h.2⟩

/-- If the old rows of a file can be named in one command, they are gone before its text is cut. -/
theorem chunkStore_start_of_nameable
    (h : isNameable indexer.nameable (idx.chunkStore.idsOf path).length = true) :
    ∃ count, (idx.start path).chunkStore.deleteFile indexer.nameable path =
      .ok (count, (idx.cleared path).chunkStore) := by
  rcases chunkStore_start_cases indexer path idx with ⟨-, hdelete⟩ | ⟨hrows, -⟩
  · exact hdelete
  · rw [h] at hrows
    cases hrows

/-- What becomes of a text that is not current, whatever the table answers: the old chunks cannot be
erased, or the attempt fails once they are, or new ones are stored and the record is completed. -/
theorem indexText_cases (indexer : Indexer) (path : String) (content : List Char) (idx : Index) :
    idx.indexText indexer path content = ⟨idx.refused path, false, false⟩ ∨
    (∃ message, idx.indexText indexer path content =
      ⟨(idx.cleared path).fail path message, false, false⟩) ∨
    ∃ chunks ids chunkStore, Chunk.ofFile indexer.splitter path content = .ok chunks ∧
      (idx.cleared path).chunkStore.add indexer.insertion chunks = .ok (ids, chunkStore) ∧
      idx.indexText indexer path content =
        ⟨(({ idx.cleared path with chunkStore }).complete path (textDigest content)
          chunks.length).analyze indexer path content, true, !chunks.isEmpty⟩ := by
  unfold indexText
  rcases chunkStore_start_cases indexer path idx with ⟨-, count, hdelete⟩ | ⟨-, hdelete⟩
  · simp only [hdelete]
    refine Or.inr ?_
    cases hcut : Chunk.ofFile indexer.splitter path content with
    | error failure => exact Or.inl ⟨failure.message, rfl⟩
    | ok chunks =>
        cases hadd : (idx.cleared path).chunkStore.add indexer.insertion chunks with
        | error failure =>
            simp only [hadd]
            exact Or.inl ⟨failure.message, rfl⟩
        | ok stored =>
            simp only [hadd]
            exact Or.inr ⟨chunks, stored.1, stored.2, rfl, hadd, rfl⟩
  · simp only [hdelete]
    exact Or.inl rfl

/-- What is kept when the record of a file is written, when chunks are erased or put in, and by an
analysis, is kept by every attempt to index the file. -/
theorem indexFile_preserves {P : Index → Prop} {indexer : Indexer} {path : String}
    (hrecord : ∀ idx (f : Record → Record), (∀ r, (f r).path = r.path) → P idx →
      P (idx.updateRecord path f))
    (hchunks : ∀ idx chunkStore, P idx → P { idx with chunkStore })
    (hanalyze : ∀ idx content, P idx → P (idx.analyze indexer path content))
    (files : Files) {idx : Index} (h : P idx) : P (idx.indexFile indexer files path).index := by
  have hfail (message : String) {idx : Index} (h : P idx) : P (idx.fail path message) :=
    hrecord idx (fun r => { r with status := .failed, error := some message }) (fun _ => rfl) h
  have hstart : P (idx.start path) :=
    hrecord idx (fun r => { r with status := .inProgress }) (fun _ => rfl) h
  have hcleared : P (idx.cleared path) := hchunks _ _ hstart
  unfold indexFile
  split
  · cases files.readText path with
    | error failure => exact hfail failure.message h
    | ok content =>
        simp only
        split
        · exact h
        · rcases indexText_cases indexer path content idx with
            heq | ⟨message, heq⟩ | ⟨chunks, ids, chunkStore, -, -, heq⟩
          · rw [heq]
            exact hfail _ hstart
          · rw [heq]
            exact hfail message hcleared
          · rw [heq]
            let finish : Record → Record := fun r =>
              { r with
                digest := textDigest content, status := .completed, chunkCount := chunks.length,
                error := none, indexed := true }
            have hstored := hchunks _ chunkStore hcleared
            exact hanalyze _ content (hrecord _ finish (fun _ => rfl) hstored)
  · exact h

/-- The old chunks are gone when the text cannot be cut or the table fails. -/
private theorem WellFormed.attempted_failure (h : idx.WellFormed) {content : List Char}
    (message : String) (hread : files.readText path = .ok content)
    (hstale : idx.isCurrent path (textDigest content) = false)
    (hfits : isNameable indexer.nameable (idx.chunksOf path).length = true)
    (hcause : (∃ failure, Chunk.ofFile indexer.splitter path content = .error failure) ∨
      ∃ message, indexer.insertion = .fails message) :
    Attempted indexer files path idx ⟨(idx.cleared path).fail path message, false, false⟩ := by
  refine ⟨.failed content message hread hstale hfits hcause ?_ ?_, ?_,
    (h.cleared path).fail path message⟩
  · rw [record?_fail, recordOr_cleared]
  · rw [chunksOf_fail, h.chunksOf_cleared]
  · exact (h.cleared_sameBut path).trans (fail_sameBut path message _)

/-- The old chunks stay where a command cannot name their rows. -/
private theorem WellFormed.attempted_refusal (h : idx.WellFormed) {content : List Char}
    (hread : files.readText path = .ok content)
    (hstale : idx.isCurrent path (textDigest content) = false)
    (hrows : isNameable indexer.nameable (idx.chunksOf path).length = false) :
    Attempted indexer files path idx ⟨idx.refused path, false, false⟩ := by
  refine ⟨.refused content hread hstale hrows ?_ ?_, ?_, (h.start path).fail path _⟩
  · rw [refused, record?_fail, recordOr_start]
  · rw [refused, chunksOf_fail, chunksOf, chunkStore_start, chunksOf]
  · exact (start_sameBut path idx).trans (fail_sameBut path _ _)

def restocked (path : String) (chunks : List Chunk) (idx : Index) : Index :=
  { idx.cleared path with chunkStore := (idx.cleared path).chunkStore.extend chunks }

private theorem WellFormed.restocked (h : idx.WellFormed) (path : String) (chunks : List Chunk) :
    (idx.restocked path chunks).WellFormed :=
  ⟨(h.cleared path).store.extend chunks, (h.cleared path).unique⟩

private theorem WellFormed.restocked_sameBut (h : idx.WellFormed) {chunks : List Chunk}
    (hfile : ∀ c ∈ chunks, c.filePath = path) : SameBut path idx (idx.restocked path chunks) := by
  refine (h.cleared_sameBut path).trans ⟨rfl, ?_⟩
  refine (idx.cleared path).chunkStore.chunks.eraseWhere_insertAll
    (fun c => c.filePath == path) chunks ?_
  intro c member
  simpa using hfile c member

private theorem WellFormed.chunksOf_restocked (h : idx.WellFormed) {chunks : List Chunk}
    (hfile : ∀ c ∈ chunks, c.filePath = path) :
    (idx.restocked path chunks).chunksOf path = chunks := by
  have hcleared : (idx.cleared path).chunkStore.chunksOf path = [] := h.chunksOf_cleared path
  have hextend := (idx.cleared path).chunkStore.chunksOf_extend_self hfile
  rw [hcleared, List.nil_append] at hextend
  exact hextend

/-- Once the new chunks are in, the attempt is a success, whatever the analysis finds. -/
private theorem WellFormed.attempted_success (h : idx.WellFormed) {content : List Char}
    {chunks : List Chunk} (hread : files.readText path = .ok content)
    (hstale : idx.isCurrent path (textDigest content) = false)
    (hfits : isNameable indexer.nameable (idx.chunksOf path).length = true)
    (hcut : Chunk.ofFile indexer.splitter path content = .ok chunks) (stored : Bool) :
    Attempted indexer files path idx
      ⟨((idx.restocked path chunks).complete path (textDigest content) chunks.length).analyze
        indexer path content, true, stored⟩ := by
  have hfile := Chunk.filePath_of_ofFile hcut
  let finish : Record → Record := fun r =>
    { r with
      digest := textDigest content, status := .completed, chunkCount := chunks.length,
      error := none, indexed := true }
  let completed := (idx.restocked path chunks).updateRecord path finish
  obtain ⟨symbols, relationships, hanalyze⟩ := analyze_eq indexer path content completed
  have hwell : completed.WellFormed := (h.restocked path chunks).updateRecord finish fun _ => rfl
  have hsame : SameBut path idx completed := (h.restocked_sameBut hfile).trans
    ((idx.restocked path chunks).updateRecord_sameBut path finish fun _ => rfl)
  have hrecord : completed.record? path = some
      { path, digest := textDigest content, status := .completed, chunkCount := chunks.length,
        error := none, indexed := true } :=
    record?_complete path (textDigest content) chunks.length (idx.restocked path chunks)
  have hchunks : completed.chunksOf path = chunks := by
    rw [chunksOf, updateRecord_chunkStore]
    exact h.chunksOf_restocked hfile
  change Attempted indexer files path idx ⟨completed.analyze indexer path content, true, stored⟩
  rw [hanalyze]
  exact ⟨.stored content chunks hread hstale hfits hcut hrecord hchunks,
    ⟨hsame.records, hsame.chunks⟩, ⟨hwell.store, hwell.unique⟩⟩

/-- A text that is read and not current is cut and stored, or the attempt fails at one of the exits.
-/
theorem WellFormed.indexText (h : idx.WellFormed) {content : List Char}
    (hdefinite : indexer.insertion.IsDefinite) (hread : files.readText path = .ok content)
    (hstale : idx.isCurrent path (textDigest content) = false) :
    Attempted indexer files path idx (idx.indexText indexer path content) := by
  unfold Index.indexText
  have hcount : (idx.chunkStore.idsOf path).length = (idx.chunksOf path).length :=
    h.store.length_idsOf path
  rcases chunkStore_start_cases indexer path idx with ⟨hfits, count, hdelete⟩ | ⟨hrows, hdelete⟩
  · rw [hcount] at hfits
    simp only [hdelete]
    cases hcut : Chunk.ofFile indexer.splitter path content with
    | error failure =>
        exact h.attempted_failure failure.message hread hstale hfits (Or.inl ⟨failure, hcut⟩)
    | ok chunks =>
        -- The old chunks are erased by now, so a failure of the table leaves the file without any.
        rcases (h.cleared path).store.add_cases hdefinite (Chunk.filePath_of_ofFile hcut) with
          ⟨ids, hadd⟩ | ⟨message, hfails, hadd⟩
        · simp only [hadd]
          exact h.attempted_success hread hstale hfits hcut _
        · simp only [hadd]
          exact h.attempted_failure _ hread hstale hfits (Or.inr ⟨message, hfails⟩)
  · rw [hcount] at hrows
    simp only [hdelete]
    exact h.attempted_refusal hread hstale hrows

/-- Every attempt to index a file, whatever the files hold and whatever fails. -/
theorem WellFormed.indexFile (h : idx.WellFormed) (hdefinite : indexer.insertion.IsDefinite)
    (files : Files) (path : String) :
    Attempted indexer files path idx (idx.indexFile indexer files path) := by
  unfold Index.indexFile
  split
  · cases hread : files.readText path with
    | error failure =>
        exact ⟨.unreadable failure hread (record?_fail path _ idx) (chunksOf_fail path _ idx),
          fail_sameBut path _ idx, h.fail path _⟩
    | ok content =>
        simp only
        split
        · rename_i hcurrent
          exact ⟨.current content hread hcurrent rfl, .refl path idx, h⟩
        · rename_i hstale
          exact h.indexText hdefinite hread (by simpa using hstale)
  · rename_i hexists
    exact ⟨.missing (by simpa using hexists) rfl, .refl path idx, h⟩

end Attempt

section Delete

variable {idx : Index}

def eraseFile (path : String) (idx : Index) : Index :=
  { idx with
    chunkStore := idx.chunkStore.eraseFile path
    records := idx.records.eraseWhere fun r => r.path == path }

/-- The index after a deletion: as it was, if the deletion fails. -/
def afterDelete (limit : Option Nat) (path : String) (idx : Index) : Index :=
  match idx.deleteFile limit path with
  | .ok after => after
  | .error _ => idx

/-- A file is taken out unless it has more chunks than a command can name rows. -/
theorem WellFormed.deleteFile_cases (h : idx.WellFormed) (limit : Option Nat) (path : String) :
    (isNameable limit (idx.chunksOf path).length = true ∧
      idx.deleteFile limit path = .ok (idx.eraseFile path)) ∨
    (isNameable limit (idx.chunksOf path).length = false ∧
      idx.deleteFile limit path = .error .tooManyRows) := by
  rw [chunksOf, ← h.store.length_idsOf]
  unfold deleteFile
  refine (idx.chunkStore.deleteFile_cases limit path).imp (fun hfits => ?_) fun hrows => ?_
  · exact ⟨hfits.1, by rw [hfits.2]; rfl⟩
  · exact ⟨hrows.1, by rw [hrows.2]; rfl⟩

/-- A deletion takes all rows of the file, or fails and takes none. -/
theorem deleteFile_cases (limit : Option Nat) (path : String) (idx : Index) :
    idx.deleteFile limit path = .ok (idx.eraseFile path) ∨
      idx.deleteFile limit path = .error .tooManyRows := by
  unfold deleteFile
  refine (idx.chunkStore.deleteFile_cases limit path).imp (fun hfits => ?_) fun hrows => ?_
  · rw [hfits.2]
    rfl
  · rw [hrows.2]
    rfl

/-- The index after a deletion has lost the file, or nothing. -/
theorem afterDelete_cases (limit : Option Nat) (path : String) (idx : Index) :
    idx.afterDelete limit path = idx.eraseFile path ∨ idx.afterDelete limit path = idx := by
  unfold afterDelete
  refine (idx.deleteFile_cases limit path).imp (fun hfits => ?_) fun hrows => ?_
  · rw [hfits]
  · rw [hrows]

theorem afterDelete_of_unlimited (path : String) (idx : Index) :
    idx.afterDelete none path = idx.eraseFile path :=
  rfl

theorem unique_eraseFile (h : (idx.records.values.map Record.path).Nodup) (path : String) :
    ((idx.eraseFile path).records.values.map Record.path).Nodup := by
  change ((idx.records.eraseWhere fun r => r.path == path).values.map Record.path).Nodup
  rw [Table.values_eraseWhere]
  exact h.sublist (List.filter_sublist.map Record.path)

theorem WellFormed.eraseFile (h : idx.WellFormed) (path : String) :
    (idx.eraseFile path).WellFormed :=
  ⟨h.store.eraseFile path, unique_eraseFile h.unique path⟩

theorem WellFormed.eraseFile_sameBut (h : idx.WellFormed) (path : String) :
    SameBut path idx (idx.eraseFile path) := by
  refine ⟨idx.records.eraseWhere_eraseWhere fun r => r.path == path, ?_⟩
  change (idx.chunkStore.eraseFile path).chunks.eraseWhere _ = _
  rw [h.store.eraseFile_eq]
  exact idx.chunkStore.chunks.eraseWhere_eraseWhere fun c => c.filePath == path

theorem WellFormed.afterDelete (h : idx.WellFormed) (limit : Option Nat) (path : String) :
    (idx.afterDelete limit path).WellFormed := by
  rcases idx.afterDelete_cases limit path with heq | heq
  · rw [heq]
    exact h.eraseFile path
  · rwa [heq]

/-- A deletion leaves the other files alone, also if it fails. -/
theorem WellFormed.afterDelete_sameBut (h : idx.WellFormed) (limit : Option Nat) (path : String) :
    SameBut path idx (idx.afterDelete limit path) := by
  rcases idx.afterDelete_cases limit path with heq | heq
  · rw [heq]
    exact h.eraseFile_sameBut path
  · rw [heq]
    exact .refl path idx

theorem record?_eraseFile (path : String) (idx : Index) :
    (idx.eraseFile path).record? path = none := by
  simp [record?, eraseFile, Table.find?, Table.values_eraseWhere]

theorem WellFormed.chunksOf_eraseFile (h : idx.WellFormed) (path : String) :
    (idx.eraseFile path).chunksOf path = [] :=
  h.store.chunksOf_eraseFile_self path

end Delete

end Index

end CodeIndex
