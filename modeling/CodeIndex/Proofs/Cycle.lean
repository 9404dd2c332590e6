import CodeIndex.Proofs.Run

/-!
Cycles in which nothing fails.

Without faults no file is lost on the way, so the files, the settings and the splitter stay the same
through a whole cycle. What it does to the records and chunks is then a fold of `applyChange` over
the changes, and the summaries at its end do not matter. Proofs about such cycles are inductions
over the list of changes in which each change touches its own file only.
-/

namespace CodeIndex

namespace Index

def applyChange (indexer : Indexer) (files : Files) (accepts : String → Bool) (idx : Index)
    (change : Change) : Index :=
  if change.status = .deleted then idx.afterDelete indexer.nameable change.path
  else if accepts change.path then (idx.indexFile indexer files change.path).index
  else idx

variable {indexer : Indexer} {files : Files} {accepts : String → Bool} {idx : Index}

theorem WellFormed.applyChange (h : idx.WellFormed) (hdefinite : indexer.insertion.IsDefinite)
    (change : Change) : (idx.applyChange indexer files accepts change).WellFormed := by
  unfold Index.applyChange
  split
  · exact h.afterDelete indexer.nameable change.path
  · split
    · exact (h.indexFile hdefinite files change.path).wellFormed
    · exact h

/-- A change leaves the files alone that it does not name. -/
theorem WellFormed.applyChange_sameBut (h : idx.WellFormed)
    (hdefinite : indexer.insertion.IsDefinite) (change : Change) :
    SameBut change.path idx (idx.applyChange indexer files accepts change) := by
  unfold Index.applyChange
  split
  · exact h.afterDelete_sameBut indexer.nameable change.path
  · split
    · exact (h.indexFile hdefinite files change.path).sameBut
    · exact .refl change.path idx

section Outcomes

variable {path : String} {content : List Char} {chunks : List Chunk}

/-- The exits for a file that can be read: its text is current, is stored, or fails, with its old
chunks erased or not. -/
private theorem Ending.of_readText {after : Index} {success : Bool}
    (h : Ending indexer files path idx after success) (hread : files.readText path = .ok content) :
    (idx.isCurrent path (textDigest content) = true ∧ after = idx) ∨
    (∃ chunks, Chunk.ofFile indexer.splitter path content = .ok chunks ∧
      after.isCurrent path (textDigest content) = true ∧ after.chunksOf path = chunks) ∨
    (((∃ failure, Chunk.ofFile indexer.splitter path content = .error failure) ∨
        ∃ message, indexer.insertion = .fails message) ∧
      (∃ r, after.record? path = some r ∧ r.status = .failed) ∧ after.chunksOf path = []) ∨
    isNameable indexer.nameable (idx.chunksOf path).length = false := by
  cases h with
  | missing hexists _ =>
      rw [Files.exists?_of_readText hread] at hexists
      cases hexists
  | unreadable failure hfailure _ _ =>
      rw [hread] at hfailure
      cases hfailure
  | current _ hagain hcurrent hsame =>
      rw [hread] at hagain
      cases hagain
      exact Or.inl ⟨hcurrent, hsame⟩
  | failed _ message hagain _ _ hcause hrecord hchunks =>
      rw [hread] at hagain
      cases hagain
      exact Or.inr (Or.inr (Or.inl ⟨hcause, ⟨_, hrecord, rfl⟩, hchunks⟩))
  | refused _ _ _ hrows _ _ => exact Or.inr (Or.inr (Or.inr hrows))
  | stored _ chunks hagain _ _ hcut hrecord hchunks =>
      rw [hread] at hagain
      cases hagain
      have hcurrent := isCurrent_eq_true_iff.mpr ⟨_, hrecord, rfl, rfl⟩
      exact Or.inr (Or.inl ⟨chunks, hcut, hcurrent, hchunks⟩)

/-- A text that can be cut and stored is indexed afterwards, provided that a record which spares the
work is right about the chunks. -/
theorem WellFormed.indexFile_completed (h : idx.WellFormed) (hfaultless : indexer.IsFaultless)
    (hread : files.readText path = .ok content)
    (hcut : Chunk.ofFile indexer.splitter path content = .ok chunks)
    (hspared : idx.isCurrent path (textDigest content) = true → idx.chunksOf path = chunks) :
    let after := (idx.indexFile indexer files path).index
    after.isCurrent path (textDigest content) = true ∧ after.chunksOf path = chunks := by
  intro after
  rcases (h.indexFile hfaultless.definite files path).ending.of_readText hread with
    ⟨hcurrent, hsame⟩ | ⟨_, hcutAgain, hcurrent, hchunks⟩ | ⟨hcause, -, -⟩ | hrows
  · have hsame : after = idx := hsame
    rw [hsame]
    exact ⟨hcurrent, hspared hcurrent⟩
  · rw [hcut] at hcutAgain
    cases hcutAgain
    exact ⟨hcurrent, hchunks⟩
  · rw [hcut, hfaultless.listed] at hcause
    rcases hcause with ⟨_, hfailure⟩ | ⟨_, hfails⟩
    · cases hfailure
    · cases hfails
  · rw [hfaultless.isNameable] at hrows
    cases hrows

/-- A text that cannot be cut leaves a record of the failure and no chunks, provided that no record
spares the work. -/
theorem WellFormed.indexFile_failed (h : idx.WellFormed) (hfaultless : indexer.IsFaultless)
    {failure : CutFailure}
    (hread : files.readText path = .ok content)
    (hcut : Chunk.ofFile indexer.splitter path content = .error failure)
    (hstale : idx.isCurrent path (textDigest content) = false) :
    let after := (idx.indexFile indexer files path).index
    (∃ r, after.record? path = some r ∧ r.status = .failed) ∧ after.chunksOf path = [] := by
  rcases (h.indexFile hfaultless.definite files path).ending.of_readText hread with
    ⟨hcurrent, -⟩ | ⟨_, hcutAgain, -, -⟩ | ⟨-, hfailed⟩ | hrows
  · rw [hstale] at hcurrent
    cases hcurrent
  · rw [hcut] at hcutAgain
    cases hcutAgain
  · exact hfailed
  · rw [hfaultless.isNameable] at hrows
    cases hrows

end Outcomes

end Index

namespace Workspace

/-- The index after changes, the summaries left aside. -/
def changedIndex (worker : Worker) (changes : List Change) (w : Workspace) : Index :=
  changes.foldl (Index.applyChange w.indexer w.files (worker.accepts w.settings)) w.index

variable {w : Workspace}

theorem stored_of_faultless (h : w.faults = {}) (path : String) : w.stored path = w := by
  simp [stored, insertion, h]

theorem insertion_of_faultless (h : w.faults = {}) : w.indexer.insertion = .listed := by
  simp [indexer, insertion, h]

theorem splitter_of_faultless (h : w.faults = {}) : w.indexer.splitter = w.splitter := by
  simp [indexer, h]

theorem indexer_faultless (h : w.faults = {}) : w.indexer.IsFaultless :=
  ⟨insertion_of_faultless h, by simp [indexer, h]⟩

theorem unrefused_of_faultless (h : w.faults = {}) (worker : Worker) (changes : List Change) :
    w.Unrefused worker changes :=
  unrefused_of_unlimited worker changes (by rw [h])

/-- Without faults an attempt changes nothing but the index. -/
theorem indexFile_of_faultless (h : w.faults = {}) (path : String) :
    (w.indexFile path).2 =
      { w with index := (w.index.indexFile w.indexer w.files path).index } := by
  unfold indexFile
  simp only
  split
  · refine stored_of_faultless ?_ path
    exact h
  · rfl

theorem takeChange_of_faultless (h : w.faults = {}) (worker : Worker) (tasks : List SummaryTask)
    (change : Change) :
    (takeChange worker (w, tasks) change).1 =
      { w with
        index := w.index.applyChange w.indexer w.files (worker.accepts w.settings) change } := by
  unfold Index.applyChange
  rcases takeChange_cases worker (w, tasks) change with
    ⟨hdeleted, heq⟩ | ⟨hkept, haccepts, heq⟩ | ⟨hkept, hrefused, heq⟩
  · rw [heq, if_pos hdeleted, deleteFile_eq]
    rfl
  · rw [heq, if_neg hkept, if_pos haccepts]
    exact indexFile_of_faultless h change.path
  · rw [heq, if_neg hkept, hrefused]
    rfl

/-- Without faults changes that are taken up change nothing but the index. -/
theorem foldl_takeChange_of_faultless (h : w.faults = {}) (worker : Worker)
    (changes : List Change) (tasks : List SummaryTask) :
    (changes.foldl (takeChange worker) (w, tasks)).1 =
      { w with index := w.changedIndex worker changes } := by
  induction changes generalizing w tasks with
  | nil => rfl
  | cons change rest ih =>
      have hfirst := takeChange_of_faultless h worker tasks change
      rw [List.foldl_cons]
      cases hstate : takeChange worker (w, tasks) change with
      | mk next nextTasks =>
          rw [hstate] at hfirst
          subst hfirst
          refine ih ?_ nextTasks
          exact h

/-- Without faults changes leave the index that their steps leave, but for the summaries. -/
theorem takeChanges_of_faultless (h : w.faults = {}) (worker : Worker) (changes : List Change) :
    ∃ summaries summaryStore, (w.takeChanges worker changes).2.index =
      { w.changedIndex worker changes with summaries, summaryStore } := by
  obtain ⟨taken, summaries, summaryStore, -, hall, heq⟩ := takeChanges_index worker changes w
  rw [hall (unrefused_of_faultless h worker changes), foldl_takeChange_of_faultless h] at heq
  exact ⟨summaries, summaryStore, heq⟩

/-- A cycle that learns the changes applies them to the index, one after the other. -/
theorem cycle_of_faultless (h : w.faults = {}) (full : Bool) (worker : Worker)
    {changes : List Change}
    (hchanges : Git.changesSince w.files.paths (if full then none else worker.lastCommit) w.diff =
      .ok changes) :
    (∃ next, (w.cycle full worker).1 = .ok next) ∧
      ∃ summaries summaryStore, (w.cycle full worker).2.index =
        { w.changedIndex worker changes with summaries, summaryStore } := by
  have hlearned : w.learned full worker = .ok changes := hchanges
  have hfaults : (w.asked full worker).faults = {} := h
  rw [cycle_of_unrefused hlearned (unrefused_of_faultless hfaults worker changes)]
  exact ⟨⟨_, rfl⟩, takeChanges_of_faultless hfaults worker changes⟩

end Workspace

end CodeIndex
