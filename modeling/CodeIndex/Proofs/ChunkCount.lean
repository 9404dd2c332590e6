import CodeIndex.Proofs.Changes
import CodeIndex.Proofs.Journal

/-!
Whether the number of chunks in a record is that of the rows of its file.

An attempt erases the old chunks of a file before it cuts the new text. If the text then cannot be
cut or not be stored, the record is changed to tell of the failure, and keeps the number of chunks
that are gone. A file that cannot be read loses none, and neither does one whose old chunks cannot
be erased. So the number in a record is right exactly if no attempt has spoilt the file since chunks
were last stored, or if there were none to lose. The tables of texts are taken to list the numbers
of new rows or to fail.
-/

namespace CodeIndex

/-- Of what befell a file, the newest first, one attempt has spoilt it, and since then it was
neither stored nor deleted. -/
def Fate.spoils : List Fate → Bool
  | [] => false
  | .spoilt :: _ => true
  | .stored _ :: _ | .deleted :: _ => false
  | .unread :: older | .spared _ :: older | .kept :: older => spoils older

def Journal.isSpoilt (path : String) (journal : Journal) : Bool :=
  Fate.spoils (Journal.fatesOf path journal)

private theorem Journal.isSpoilt_cons_self (path : String) (fate : Fate) (journal : Journal) :
    Journal.isSpoilt path ((path, fate) :: journal) =
      Fate.spoils (fate :: Journal.fatesOf path journal) := by
  rw [isSpoilt, fatesOf_cons_self]

private theorem Journal.isSpoilt_cons_other {path other : String} (hne : other ≠ path) (fate : Fate)
    (journal : Journal) :
    Journal.isSpoilt other ((path, fate) :: journal) = Journal.isSpoilt other journal := by
  rw [isSpoilt, fatesOf_cons_other hne, isSpoilt]

namespace Index

variable {indexer : Indexer} {files : Files} {path : String} {idx after : Index} {spoilt : Bool}
  {journal : Journal}

/-- What the index says of the number of chunks of a file. The record may be one that is yet to be
made. -/
structure FileCounted (spoilt : Bool) (path : String) (idx : Index) : Prop where
  intact : spoilt = false → (idx.recordOr path).chunkCount = (idx.chunksOf path).length
  erased : spoilt = true → (idx.recordOr path).status = .failed ∧ idx.chunksOf path = []

private theorem recordOr_of_record? {r : Record} (h : idx.record? path = some r) :
    idx.recordOr path = r := by
  rw [recordOr, h, Option.getD_some]

private theorem FileCounted.congr (h : FileCounted spoilt path idx)
    (hsame : SameFile path idx after) :
    FileCounted spoilt path after := by
  have hrecord : after.recordOr path = idx.recordOr path := by
    rw [recordOr, hsame.record, recordOr]
  refine ⟨?_, ?_⟩
  · rw [hrecord, hsame.chunks]
    exact h.intact
  · rw [hrecord, hsame.chunks]
    exact h.erased

/-- A failure that leaves the chunks leaves their number as well. -/
theorem FileCounted.failed (h : FileCounted spoilt path idx) {message : String}
    (hrecord : after.record? path = some
      { idx.recordOr path with status := .failed, error := some message })
    (hchunks : after.chunksOf path = idx.chunksOf path) : FileCounted spoilt path after := by
  have hafter := recordOr_of_record? hrecord
  refine ⟨?_, ?_⟩
  · intro hintact
    rw [hafter, hchunks]
    exact h.intact hintact
  · intro herased
    rw [hafter, hchunks]
    exact ⟨rfl, (h.erased herased).2⟩

private theorem attempt_of_not_exists (hexists : files.exists? path = false) :
    idx.attempt indexer files path = .unread := by
  unfold attempt
  cases hread : files.readText path with
  | error failure => rfl
  | ok content =>
      rw [Files.exists?_of_readText hread] at hexists
      cases hexists

/-- An attempt at a file, seen in its number of chunks. -/
private theorem FileCounted.attempted {fates : List Fate}
    (h : FileCounted (Fate.spoils fates) path idx)
    (hcount : (idx.chunkStore.idsOf path).length = (idx.chunksOf path).length)
    (hending : Ending indexer files path idx (idx.indexFile indexer files path).index
      (idx.indexFile indexer files path).success) :
    FileCounted (Fate.spoils (idx.attempt indexer files path :: fates)) path
      (idx.indexFile indexer files path).index := by
  have hattempt (content : List Char) (hread : files.readText path = .ok content)
      (hstale : idx.isCurrent path (textDigest content) = false) :
      idx.attempt indexer files path =
        if (idx.indexFile indexer files path).success then .stored content
        else if isNameable indexer.nameable (idx.chunksOf path).length then .spoilt
        else .kept := by
    simp [attempt, hread, hstale, hcount]
  generalize (idx.indexFile indexer files path).index = after at hending ⊢
  generalize (idx.indexFile indexer files path).success = success at hending hattempt
  cases hending with
  | missing hexists hsame =>
      rw [attempt_of_not_exists hexists, hsame]
      exact h
  | unreadable failure hread hrecord hchunks =>
      have hfate : idx.attempt indexer files path = .unread := by simp only [attempt, hread]
      rw [hfate]
      exact h.failed hrecord hchunks
  | current content hread hcurrent hsame =>
      have hfate : idx.attempt indexer files path = .spared content := by
        simp [attempt, hread, hcurrent]
      rw [hfate, hsame]
      exact h
  | failed content message hread hstale hfits hcause hrecord hchunks =>
      -- Whatever the file held before, its chunks are gone, and the record keeps their number.
      rw [hattempt content hread hstale, hfits]
      refine ⟨?_, ?_⟩
      · intro hintact
        cases hintact
      · intro _
        rw [recordOr_of_record? hrecord]
        exact ⟨rfl, hchunks⟩
  | refused content hread hstale hrows hrecord hchunks =>
      rw [hattempt content hread hstale, hrows]
      exact h.failed hrecord hchunks
  | stored content chunks hread hstale hfits hcut hrecord hchunks =>
      rw [hattempt content hread hstale]
      refine ⟨?_, ?_⟩
      · intro _
        rw [recordOr_of_record? hrecord, hchunks]
      · intro herased
        cases herased

structure Counted (journal : Journal) (idx : Index) : Prop where
  wellFormed : idx.WellFormed
  files : ∀ path, FileCounted (journal.isSpoilt path) path idx

private theorem counted_empty : Counted [] {} := by
  refine ⟨wellFormed_empty, ?_⟩
  intro path
  exact ⟨fun _ => rfl, fun herased => by cases herased⟩

private theorem Counted.indexFile (h : Counted journal idx)
    (hdefinite : indexer.insertion.IsDefinite) (files : Files) (path : String) :
    Counted ((path, idx.attempt indexer files path) :: journal)
      (idx.indexFile indexer files path).index := by
  have hattempt := h.wellFormed.indexFile hdefinite files path
  refine ⟨hattempt.wellFormed, ?_⟩
  intro other
  by_cases hother : other = path
  · subst hother
    rw [Journal.isSpoilt_cons_self]
    exact (h.files other).attempted (h.wellFormed.store.length_idsOf other) hattempt.ending
  · rw [Journal.isSpoilt_cons_other hother]
    exact (h.files other).congr (hattempt.sameBut.sameFile hother)

private theorem Counted.kept (h : Counted journal idx) (path : String) :
    Counted ((path, .kept) :: journal) idx := by
  refine ⟨h.wellFormed, ?_⟩
  intro other
  by_cases hother : other = path
  · subst hother
    rw [Journal.isSpoilt_cons_self]
    exact h.files other
  · rw [Journal.isSpoilt_cons_other hother]
    exact h.files other

private theorem Counted.eraseFile (h : Counted journal idx) (path : String) :
    Counted ((path, .deleted) :: journal) (idx.eraseFile path) := by
  refine ⟨h.wellFormed.eraseFile path, ?_⟩
  intro other
  by_cases hother : other = path
  · subst hother
    rw [Journal.isSpoilt_cons_self]
    refine ⟨?_, ?_⟩
    · intro _
      rw [recordOr, record?_eraseFile, h.wellFormed.chunksOf_eraseFile]
      rfl
    · intro herased
      cases herased
  · rw [Journal.isSpoilt_cons_other hother]
    exact (h.files other).congr ((h.wellFormed.eraseFile_sameBut path).sameFile hother)

private theorem Counted.summarizeFiles (h : Counted journal idx) (indexer : Indexer)
    (tasks : List SummaryTask) : Counted journal (idx.summarizeFiles indexer tasks) := by
  obtain ⟨summaries, summaryStore, heq⟩ := summarizeFiles_eq indexer tasks idx
  rw [heq]
  exact ⟨⟨h.wellFormed.store, h.wellFormed.unique⟩, fun path => (h.files path).congr ⟨rfl, rfl⟩⟩

end Index

namespace Workspace

variable {journal : Journal} {w : Workspace}

private theorem Logged.counted (h : Logged Lists journal w) : w.index.Counted journal := by
  refine (h.index_invariant ?_ Index.counted_empty ?_ ?_ ?_ ?_).2
  · exact fun w after hcontinues hlists => hlists.continues hcontinues
  · intro _ w path hlists hcounted
    exact hcounted.indexFile hlists.insertion_definite w.files path
  · exact fun _ _ path hcounted => hcounted.eraseFile path
  · exact fun _ _ path hcounted => hcounted.kept path
  · exact fun _ w tasks hcounted => hcounted.summarizeFiles w.indexer tasks

/-- After any run the number of chunks in a record is that of the rows of its file exactly if no
attempt has spoilt the file since chunks were last stored, or if the number is zero. So it is right
in every completed record, and where it may be wrong the record is failed and there is no row. -/
theorem chunk_count_is_right_iff (h : Logged Lists journal w) (r : Record)
    (member : r ∈ w.index.records.values) :
    let chunks := w.index.chunkStore.chunks.values.filter fun c => c.filePath == r.path
    (r.chunkCount = chunks.length ↔ journal.isSpoilt r.path = false ∨ r.chunkCount = 0) ∧
    (r.status = .completed → r.chunkCount = chunks.length) ∧
    (journal.isSpoilt r.path = true → r.status = .failed ∧ chunks = []) := by
  intro chunks
  have hcounted := h.counted
  have hfile := hcounted.files r.path
  have hrecord := Index.recordOr_of_record? (hcounted.wellFormed.record?_of_mem member)
  have hchunks : w.index.chunksOf r.path = chunks := rfl
  have hintact := hfile.intact
  have herased := hfile.erased
  rw [hrecord, hchunks] at hintact herased
  cases hspoilt : Journal.isSpoilt r.path journal with
  | false =>
      have hright := hintact hspoilt
      exact ⟨⟨fun _ => Or.inl rfl, fun _ => hright⟩, fun _ => hright, fun hno => by cases hno⟩
  | true =>
      obtain ⟨hfailed, hnone⟩ := herased hspoilt
      refine ⟨?_, ?_, fun _ => ⟨hfailed, hnone⟩⟩
      · rw [hnone, List.length_nil]
        constructor
        · exact Or.inr
        · rintro (hno | hzero)
          · cases hno
          · exact hzero
      · intro hcompleted
        rw [hfailed] at hcompleted
        cases hcompleted

/-- Two files are indexed. Then one cannot be stored any more and the other not be read: both are
failed, and the number of chunks is right for the second. -/
theorem chunk_count_is_right_for_unreadable_file :
    let first : Workspace :=
      { files := { contents := [("a.py", [120]), ("b.py", [120])] }
        window := ⟨40, 10⟩
        analyzer := none
        summarizes := false }
    let worker : Worker := { rules := none, suffixes := [".py"] }
    let failing : Workspace :=
      { (first.cycle true worker).2 with
        files := { contents := [("a.py", [121]), ("b.py", [255])] }
        faults := { insert := some "full" } }
    let last := (failing.cycle true worker).2
    ∃ r ∈ last.index.records.values, r.path = "b.py" ∧ r.status = .failed ∧ r.chunkCount = 1 ∧
      r.chunkCount =
        (last.index.chunkStore.chunks.values.filter fun c => c.filePath == r.path).length := by
  intro first worker failing last
  let journal : Journal :=
    failing.cycleJournal true worker ++ (first.cycleJournal true worker ++ [])
  have hfirst : Logged Lists [] first := .empty rfl rfl
  have hfailing : Logged Lists (first.cycleJournal true worker ++ []) failing :=
    (Logged.cycle true worker hfirst).changed _ _ rfl
  have hlast : Logged Lists journal last := .cycle true worker hfailing
  have hfound : ∃ r ∈ last.index.records.values,
      r.path = "b.py" ∧ r.status = .failed ∧ r.chunkCount = 1 := by decide +kernel
  have hintact : Journal.isSpoilt "b.py" journal = false := by decide +kernel
  obtain ⟨r, member, hpath, hfailed, hone⟩ := hfound
  refine ⟨r, member, hpath, hfailed, hone, ?_⟩
  refine (chunk_count_is_right_iff hlast r member).1.mpr (Or.inl ?_)
  rw [hpath]
  exact hintact

/-- A file is indexed, then changed while the table of texts fails: the record still tells of one
chunk, and there is none. -/
theorem chunk_count_outlives_chunks :
    let first : Workspace :=
      { files := { contents := [("a.py", [120])] }, window := ⟨40, 10⟩, analyzer := none }
    let failing : Workspace :=
      { (first.indexFile "a.py").2 with
        files := { contents := [("a.py", [121])] }
        faults := { insert := some "full" } }
    let last := (failing.indexFile "a.py").2
    last.index.records.values.map (fun r => (r.path, r.status, r.chunkCount)) =
        [("a.py", .failed, 1)] ∧
      last.index.chunkStore.chunks.rows = [] := by
  decide +kernel

end Workspace

end CodeIndex
