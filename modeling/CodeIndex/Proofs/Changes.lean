import CodeIndex.Proofs.Cycle

/-!
What a cycle does to each file, whatever goes wrong in it.

A cycle learns its changes from a comparison, or by a scan in which every file counts as added. Then
it takes them up one after the other, and each touches the file it names and no other one. So a file
that no change names keeps its record and its chunks through the cycle.
-/

namespace CodeIndex

namespace Git

/-- Changes are learned by a scan of the files: there is no commit to compare with, or the
comparison fails. -/
def Scans (since : Option String) (diff : Answer) : Prop :=
  base? since = none ∨ diff.code ≠ 0

variable {since : Option String} {diff : Answer}

/-- A scan gives every file as added. -/
theorem Scans.changesSince (h : Scans since diff) (files : List String) :
    Git.changesSince files since diff = .ok (files.map fun path => ⟨path, .added⟩) := by
  unfold Git.changesSince
  rcases h with hbase | hcode
  · rw [hbase]
  · cases base? since with
    | none => rfl
    | some commit => exact if_neg hcode

theorem changesSince_of_not_scans (h : ¬Scans since diff) (files : List String) :
    changesSince files since diff = changesOf diff.output.toList := by
  obtain ⟨hbase, hcode⟩ := not_or.mp h
  unfold changesSince
  cases hsome : base? since with
  | none => exact absurd hsome hbase
  | some commit => exact if_pos (Decidable.not_not.mp hcode)

end Git

namespace Index

structure SameFile (path : String) (idx after : Index) : Prop where
  record : after.record? path = idx.record? path
  chunks : after.chunksOf path = idx.chunksOf path

theorem SameFile.trans {path : String} {idx after last : Index} (h₁ : SameFile path idx after)
    (h₂ : SameFile path after last) : SameFile path idx last :=
  ⟨h₂.record.trans h₁.record, h₂.chunks.trans h₁.chunks⟩

theorem SameBut.sameFile {path other : String} {idx after : Index} (h : SameBut path idx after)
    (hne : other ≠ path) : SameFile other idx after :=
  ⟨h.record?_eq hne, h.chunksOf_eq hne⟩

end Index

namespace Workspace

def answering (diff head : Git.Answer) (w : Workspace) : Workspace :=
  { w with diff, head }

variable {w : Workspace} {worker : Worker} {changes : List Change} {path : String}

section Step

private theorem takeChange_index (worker : Worker) (state : Workspace × List SummaryTask)
    (change : Change) :
    (takeChange worker state change).1.index =
      state.1.index.applyChange state.1.indexer state.1.files
        (worker.accepts state.1.settings) change := by
  unfold Index.applyChange
  rcases takeChange_cases worker state change with
    ⟨hdeleted, heq⟩ | ⟨hkept, haccepts, heq⟩ | ⟨hkept, hrefused, heq⟩
  · rw [heq, if_pos hdeleted, deleteFile_eq]
    rfl
  · rw [heq, if_neg hkept, if_pos haccepts]
    exact indexFile_index change.path state.1
  · rw [heq, if_neg hkept, hrefused]
    rfl

variable {state : Workspace × List SummaryTask}

theorem Orderly.takeChange (h : state.1.Orderly) (worker : Worker) (change : Change) :
    (takeChange worker state change).1.Orderly := by
  refine ⟨h.lists.continues (takeChange_continues worker state change), ?_⟩
  rw [takeChange_index]
  exact h.wellFormed.applyChange h.lists.insertion_definite change

/-- A change that is taken up leaves the files alone that it does not name. -/
theorem Orderly.takeChange_sameBut (h : state.1.Orderly) (worker : Worker) (change : Change) :
    Index.SameBut change.path state.1.index (Workspace.takeChange worker state change).1.index := by
  rw [takeChange_index]
  exact h.wellFormed.applyChange_sameBut h.lists.insertion_definite change

end Step

section Run

private theorem foldl_takeChange_continues (worker : Worker) (changes : List Change)
    (state : Workspace × List SummaryTask) :
    state.1.Continues (changes.foldl (takeChange worker) state).1 :=
  List.foldlRecOn (motive := fun last => state.1.Continues last.1) changes (takeChange worker)
    (.refl state.1)
    fun last h change _ => h.trans (takeChange_continues worker last change)

theorem takeEach_continues (worker : Worker) (changes : List Change)
    (state : Workspace × List SummaryTask) :
    state.1.Continues (takeEach worker changes state).2.1 := by
  obtain ⟨taken, -, hstate, -⟩ := takeEach_eq_foldl worker changes state
  rw [hstate]
  exact foldl_takeChange_continues worker taken state

private theorem takeChanges_of_foldl_continues (h : w.Unrefused worker changes) :
    (changes.foldl (takeChange worker) (w, [])).1.Continues (w.takeChanges worker changes).2 := by
  rw [takeChanges_of_unrefused h]
  split
  · exact .refl _
  · exact summarizeFiles_continues _ _

/-- Changes are taken up without a change from outside. -/
theorem takeChanges_continues (worker : Worker) (changes : List Change) (w : Workspace) :
    w.Continues (w.takeChanges worker changes).2 := by
  by_cases h : w.Unrefused worker changes
  · exact (foldl_takeChange_continues worker changes (w, [])).trans
      (takeChanges_of_foldl_continues h)
  · obtain ⟨taken, failure, -, heq⟩ := takeChanges_of_refused h
    rw [heq]
    exact foldl_takeChange_continues worker taken (w, [])

/-- A cycle of which no change is refused goes to its end, whatever becomes of the files, and the
worker remembers the current commit. -/
theorem cycle_result_of_unrefused {full : Bool} (h : w.learned full worker = .ok changes)
    (hunrefused : (w.asked full worker).Unrefused worker changes) :
    (w.cycle full worker).1 = .ok { worker with lastCommit := Git.currentCommit w.head } := by
  have htake := takeChanges_continues worker changes (w.asked full worker)
  rw [cycle_of_unrefused h hunrefused]
  simp only [htake.head]
  rfl

/-- Changes leave a file alone that none of them names. -/
private theorem Orderly.foldl_takeChange_sameFile (h : w.Orderly) (worker : Worker)
    (hother : ∀ change ∈ changes, path ≠ change.path) :
    Index.SameFile path w.index (changes.foldl (Workspace.takeChange worker) (w, [])).1.index := by
  -- That a change touches its own file only is known of tables that agree with each other.
  let kept (last : Workspace × List SummaryTask) : Prop :=
    last.1.Orderly ∧ Index.SameFile path w.index last.1.index
  have hstart : kept (w, []) := ⟨h, rfl, rfl⟩
  refine (List.foldlRecOn (motive := kept) changes (Workspace.takeChange worker) hstart ?_).2
  intro last hlast change member
  have hstep := hlast.1.takeChange_sameBut worker change
  exact ⟨hlast.1.takeChange worker change,
    hlast.2.trans (hstep.sameFile (hother change member))⟩

/-- A cycle leaves a file alone that none of its changes names. -/
theorem Orderly.cycle_sameFile (h : w.Orderly) (full : Bool) (worker : Worker)
    (hother : ∀ changes, w.learned full worker = .ok changes →
      ∀ change ∈ changes, path ≠ change.path) :
    Index.SameFile path w.index (w.cycle full worker).2.index := by
  cases hlearned : w.learned full worker with
  | error failure =>
      rw [cycle_of_not_learned hlearned]
      exact ⟨rfl, rfl⟩
  | ok changes =>
      obtain ⟨taken, summaries, summaryStore, hinitial, -, heq⟩ :=
        takeChanges_index worker changes (w.asked full worker)
      have hfold := (h.asked full worker).foldl_takeChange_sameFile worker
        fun change member => hother changes hlearned change (hinitial.subset member)
      rw [cycle_index_of_learned hlearned, heq]
      exact ⟨hfold.record, hfold.chunks⟩

end Run

end Workspace

end CodeIndex
