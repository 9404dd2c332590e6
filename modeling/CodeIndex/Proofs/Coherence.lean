import CodeIndex.Proofs.Run
import Mathlib.Data.Set.Operations

/-!
What the index says of a file is explained by a text that the file has had.

A record that is completed carries the digest of a text whose chunks are the rows of the file; a
record that is not may carry the digest of an older text, but only of one that could be cut; and a
file without a record has no rows. The records and the two tables of the chunk store are written at
different moments, so each exit of an attempt to index a file has to bring them together again. The
main result says that every run does, whatever fails on the way.
-/

namespace CodeIndex

namespace Index

/-- What the index holds of one file, explained by texts among the given ones. -/
structure FileCoherent (splitter : Splitter) (contents : Set (List Char)) (path : String)
    (idx : Index) : Prop where
  unrecorded : idx.record? path = none → idx.chunksOf path = []
  digest : ∀ r, idx.record? path = some r → r.digest = "" ∨
    ∃ content ∈ contents, ∃ chunks, textDigest content = r.digest ∧
      Chunk.ofFile splitter path content = .ok chunks
  completed : ∀ r, idx.record? path = some r → r.status = .completed →
    ∃ content ∈ contents, ∃ chunks, textDigest content = r.digest ∧
      Chunk.ofFile splitter path content = .ok chunks ∧ idx.chunksOf path = chunks ∧
      r.chunkCount = chunks.length

structure Coherent (splitter : Splitter) (contents : Set (List Char)) (idx : Index) : Prop where
  wellFormed : idx.WellFormed
  files : ∀ path, FileCoherent splitter contents path idx

section

variable {splitter : Splitter} {contents : Set (List Char)} {path : String} {idx after : Index}

theorem FileCoherent.congr (h : FileCoherent splitter contents path idx)
    (hrecord : after.record? path = idx.record? path)
    (hchunks : after.chunksOf path = idx.chunksOf path) :
    FileCoherent splitter contents path after := by
  refine ⟨?_, ?_, ?_⟩
  · rw [hrecord, hchunks]
    exact h.unrecorded
  · rw [hrecord]
    exact h.digest
  · rw [hrecord, hchunks]
    exact h.completed

/-- A step that leaves the other files alone has to be looked at for its own file only. -/
private theorem Coherent.of_sameBut (h : Coherent splitter contents idx) (hwell : after.WellFormed)
    (hsame : SameBut path idx after) (hpath : FileCoherent splitter contents path after) :
    Coherent splitter contents after := by
  refine ⟨hwell, ?_⟩
  intro other
  by_cases hother : other = path
  · rw [hother]
    exact hpath
  · exact (h.files other).congr (hsame.record?_eq hother) (hsame.chunksOf_eq hother)

theorem coherent_empty : Coherent splitter contents {} := by
  refine ⟨wellFormed_empty, ?_⟩
  intro path
  refine ⟨fun _ => rfl, ?_, ?_⟩
  · intro r hrecord
    cases hrecord
  · intro r hrecord
    cases hrecord

/-- The digest of the record that an attempt starts from: there may be no record yet. -/
private theorem FileCoherent.digest_recordOr (h : FileCoherent splitter contents path idx) :
    (idx.recordOr path).digest = "" ∨
      ∃ content ∈ contents, ∃ chunks, textDigest content = (idx.recordOr path).digest ∧
        Chunk.ofFile splitter path content = .ok chunks := by
  unfold recordOr
  cases hrecord : idx.record? path with
  | none => exact Or.inl rfl
  | some r => exact h.digest r hrecord

/-- A failure keeps the digest, so that it does not matter what becomes of the chunks. -/
theorem FileCoherent.failed (h : FileCoherent splitter contents path idx) {message : String}
    (hrecord : after.record? path = some
      { idx.recordOr path with status := .failed, error := some message }) :
    FileCoherent splitter contents path after := by
  refine ⟨?_, ?_, ?_⟩
  · intro hnone
    rw [hrecord] at hnone
    cases hnone
  · intro r hr
    rw [hrecord] at hr
    cases hr
    exact h.digest_recordOr
  · intro r hr hcompleted
    rw [hrecord] at hr
    cases hr
    cases hcompleted

/-- At every exit of an attempt the file is still explained by the given texts. -/
theorem FileCoherent.ending {indexer : Indexer} {files : Files} {success : Bool}
    (h : FileCoherent splitter contents path idx)
    (hending : Ending indexer files path idx after success)
    (htexts : ∀ content, files.readText path = .ok content → content ∈ contents)
    (hcuts : ∀ content chunks, Chunk.ofFile indexer.splitter path content = .ok chunks →
      Chunk.ofFile splitter path content = .ok chunks) :
    FileCoherent splitter contents path after := by
  cases hending with
  | missing _ hsame => rwa [hsame]
  | unreadable failure _ hrecord _ => exact h.failed hrecord
  | current content _ _ hsame => rwa [hsame]
  | failed content message _ _ _ _ hrecord _ => exact h.failed hrecord
  | refused content _ _ _ hrecord _ => exact h.failed hrecord
  | stored content chunks hread _ _ hcut hrecord hchunks =>
      -- The one exit with a new digest: the text that was read explains the record from now on.
      have hmem := htexts content hread
      have hcut := hcuts content chunks hcut
      refine ⟨?_, ?_, ?_⟩
      · intro hnone
        rw [hrecord] at hnone
        cases hnone
      · intro r hr
        rw [hrecord] at hr
        cases hr
        exact Or.inr ⟨content, hmem, chunks, rfl, hcut⟩
      · intro r hr _
        rw [hrecord] at hr
        cases hr
        exact ⟨content, hmem, chunks, rfl, hcut, hchunks, rfl⟩

/-- An attempt keeps the index coherent, if it reads one of the given texts and cuts it as given. -/
theorem Coherent.indexFile {indexer : Indexer} {files : Files}
    (h : Coherent splitter contents idx) (hdefinite : indexer.insertion.IsDefinite)
    (htexts : ∀ path content, files.readText path = .ok content → content ∈ contents)
    (hcuts : ∀ path content chunks, Chunk.ofFile indexer.splitter path content = .ok chunks →
      Chunk.ofFile splitter path content = .ok chunks) (path : String) :
    Coherent splitter contents (idx.indexFile indexer files path).index := by
  have hattempt := h.wellFormed.indexFile hdefinite files path
  exact h.of_sameBut hattempt.wellFormed hattempt.sameBut
    ((h.files path).ending hattempt.ending (htexts path) (hcuts path))

theorem Coherent.eraseFile (h : Coherent splitter contents idx) (path : String) :
    Coherent splitter contents (idx.eraseFile path) := by
  have hnone := record?_eraseFile path idx
  refine h.of_sameBut (h.wellFormed.eraseFile path) (h.wellFormed.eraseFile_sameBut path) ?_
  refine ⟨fun _ => h.wellFormed.chunksOf_eraseFile path, ?_, ?_⟩
  · intro r hrecord
    rw [hnone] at hrecord
    cases hrecord
  · intro r hrecord
    rw [hnone] at hrecord
    cases hrecord

private theorem Coherent.summarizeFiles (h : Coherent splitter contents idx) (indexer : Indexer)
    (tasks : List SummaryTask) : Coherent splitter contents (idx.summarizeFiles indexer tasks) := by
  obtain ⟨summaries, summaryStore, heq⟩ := summarizeFiles_eq indexer tasks idx
  rw [heq]
  exact ⟨⟨h.wellFormed.store, h.wellFormed.unique⟩, fun path => (h.files path).congr rfl rfl⟩

end

end Index

namespace Workspace

structure Within (splitter : Splitter) (contents : Set (List Char)) (w : Workspace) : Prop where
  splitter : w.splitter = splitter
  answer : w.faults.answer = .listed
  texts : ∀ path content, w.files.readText path = .ok content → content ∈ contents

variable {splitter : Splitter} {contents : Set (List Char)} {w : Workspace}

private theorem Within.continues {after : Workspace} (h : w.Within splitter contents)
    (hcontinues : w.Continues after) : after.Within splitter contents := by
  refine ⟨hcontinues.splitter.trans h.splitter, ?_, ?_⟩
  · rw [hcontinues.faults]
    exact h.answer
  · exact fun path content hread => h.texts path content (hcontinues.texts path content hread)

private theorem Within.insertion_definite (h : w.Within splitter contents) :
    w.indexer.insertion.IsDefinite :=
  Lists.insertion_definite h.answer

/-- A splitter with a fault cuts nothing, so what is cut is cut by the splitter itself. -/
private theorem Within.cuts (h : w.Within splitter contents) (path : String) (content : List Char)
    (chunks : List Chunk) (hcut : Chunk.ofFile w.indexer.splitter path content = .ok chunks) :
    Chunk.ofFile splitter path content = .ok chunks := by
  rw [← h.splitter]
  simp only [indexer] at hcut
  cases hfault : w.faults.split with
  | none => simpa only [hfault] using hcut
  | some message =>
      simp only [hfault, Chunk.ofFile, Splitter.failing] at hcut
      cases hpieces : w.splitter (Language.ofPath? path) content with
      | error failure =>
          rw [hpieces] at hcut
          cases hcut
      | ok pieces =>
          rw [hpieces] at hcut
          cases hcut

/-- The index is coherent at every time of a run. -/
theorem Reached.coherent (h : Reached (Within splitter contents) w) :
    w.Within splitter contents ∧ w.index.Coherent splitter contents := by
  refine h.index_invariant ?_ Index.coherent_empty ?_ ?_ ?_
  · exact fun w after hcontinues hwithin => hwithin.continues hcontinues
  · intro w path hwithin hcoherent
    exact hcoherent.indexFile hwithin.insertion_definite hwithin.texts hwithin.cuts path
  · exact fun idx path hcoherent => hcoherent.eraseFile path
  · exact fun w tasks _ hcoherent => hcoherent.summarizeFiles w.indexer tasks

/-- Between two steps the files and the faults may become others. -/
theorem Reached.changed (h : Reached (Within splitter contents) w) (files : Files) (faults : Faults)
    (hanswer : faults.answer = .listed)
    (htexts : ∀ path content, files.readText path = .ok content → content ∈ contents) :
    Reached (Within splitter contents) { w with files, faults } :=
  .surroundings h rfl ⟨h.coherent.1.splitter, hanswer, htexts⟩

/-- Whatever happens in a run, a record that is completed has the digest of a text whose chunks are
the rows of its file, in their order and with their number, and a file without a record has no row
in either table of the chunk store. -/
theorem completed_records_describe_chunks (h : Reached (Within splitter contents) w) :
    w.index.chunkStore.chunks.Ascending ∧
    (∀ r ∈ w.index.records.values, r.status = .completed →
      ∃ content ∈ contents, ∃ chunks, textDigest content = r.digest ∧
        Chunk.ofFile splitter r.path content = .ok chunks ∧
        (w.index.chunkStore.chunks.values.filter fun c => c.filePath == r.path) = chunks ∧
        r.chunkCount = chunks.length) ∧
    ∀ path, (∀ r ∈ w.index.records.values, r.path ≠ path) →
      (∀ row ∈ w.index.chunkStore.chunks.rows, row.2.filePath ≠ path) ∧
      ∀ row ∈ w.index.chunkStore.owners.rows, row.2 ≠ path := by
  obtain ⟨-, hcoherent⟩ := h.coherent
  have hwell := hcoherent.wellFormed
  refine ⟨hwell.store.ascending, ?_, ?_⟩
  · intro r member hcompleted
    exact (hcoherent.files r.path).completed r (hwell.record?_of_mem member) hcompleted
  · intro path hunrecorded
    have hnone := Index.record?_eq_none_iff.mpr hunrecorded
    exact hwell.store.rows_of_chunksOf_eq_nil ((hcoherent.files path).unrecorded hnone)

/-- A file is indexed, then changed while the table of chunks fails, and taken up again by a full
cycle. -/
theorem completed_record_describes_chunks_after_failure :
    let first : Workspace :=
      { files := { contents := [("a.py", [120, 61, 49])] }, window := ⟨2, 0⟩, analyzer := none }
    let failing : Workspace :=
      { (first.indexFile "a.py").2 with
        files := { contents := [("a.py", [121, 61, 50, 10, 121])] }
        faults := { insert := some "full" } }
    let healed : Workspace := { (failing.indexFile "a.py").2 with faults := {} }
    let last := (healed.cycle true { rules := none, suffixes := [".py"] }).2
    ∃ r ∈ last.index.records.values, r.status = .completed ∧
      ∃ content ∈ Set.univ, ∃ chunks, textDigest content = r.digest ∧
        Chunk.ofFile first.splitter r.path content = .ok chunks ∧
        (last.index.chunkStore.chunks.values.filter fun c => c.filePath == r.path) = chunks ∧
        r.chunkCount = chunks.length := by
  intro first failing healed last
  have hfirst : Reached (Within first.splitter Set.univ) first :=
    .empty rfl ⟨rfl, rfl, fun _ _ _ => trivial⟩
  have hfailing : Reached (Within first.splitter Set.univ) failing :=
    (hfirst.indexFile "a.py").changed _ _ rfl fun _ _ _ => trivial
  have hhealed : Reached (Within first.splitter Set.univ) healed :=
    (hfailing.indexFile "a.py").changed _ _ rfl fun _ _ _ => trivial
  have hlast : Reached (Within first.splitter Set.univ) last := .cycle true _ hhealed
  have hcompleted : ∃ r ∈ last.index.records.values, r.status = .completed := by decide +kernel
  obtain ⟨r, member, hstatus⟩ := hcompleted
  exact ⟨r, member, hstatus, (completed_records_describe_chunks hlast).2.1 r member hstatus⟩

end Workspace

end CodeIndex
