import CodeIndex.Proofs.Journal
import CodeIndex.Proofs.Frame

/-!
Files that the worker does not take never get into the index.

A cycle asks once for each change whether the worker takes the file. What follows writes under the
path of the change alone: the record and the chunks, what the analysis finds, and later the summary,
for which the file is read a second time. So it is enough that every step is `Confined` to its file,
and that no file is collected for a summary unless it was taken. The ignore file and the settings
stay the same in the runs considered here; everything else may change, also within a cycle.
-/

namespace CodeIndex

private theorem Table.rowsWhere_eq_nil_iff {α : Type} {t : Table α} {p : α → Bool} :
    t.rowsWhere p = [] ↔ ∀ a ∈ t.values, p a = false := by
  simp only [rowsWhere, values, List.filter_eq_nil_iff, List.forall_mem_map, Bool.not_eq_true]

def FileRows.empty : FileRows :=
  ⟨[], [], [], [], [], [], [], []⟩

namespace Index

section Rows

variable {path : String} {idx : Index}

private theorem record?_eq_none_of_rowsOf (h : idx.rowsOf path = .empty) :
    idx.record? path = none := by
  have hrecords : idx.records.rowsWhere (fun r => r.path == path) = [] :=
    congrArg FileRows.records h
  rw [record?_eq_none_iff]
  intro r member
  exact beq_eq_false_iff_ne.mp (Table.rowsWhere_eq_nil_iff.mp hrecords r member)

/-- Deleting a file that the index has nothing of changes nothing. -/
theorem eraseFile_eq_self (h : idx.rowsOf path = .empty) : idx.eraseFile path = idx := by
  have hrecords : idx.records.rowsWhere (fun r => r.path == path) = [] :=
    congrArg FileRows.records h
  have howners : idx.chunkStore.owners.rowsWhere (· == path) = [] :=
    congrArg FileRows.chunkOwners h
  have hfree : path ∉ idx.chunkStore.owners.values := by
    intro member
    simpa using Table.rowsWhere_eq_nil_iff.mp howners path member
  rw [eraseFile, ChunkStore.eraseFile_eq_self hfree,
    Table.eraseWhere_eq_self _ _ (Table.rowsWhere_eq_nil_iff.mp hrecords)]

/-- An attempt to index a file that is there leaves a record of it, whether it succeeds or fails. -/
theorem record?_indexFile_ne_none {files : Files} (hexists : files.exists? path = true)
    (indexer : Indexer) (idx : Index) :
    (idx.indexFile indexer files path).index.record? path ≠ none := by
  have hleaves : Leaves files path idx (idx.indexFile indexer files path).index _ _ :=
    indexFile_leaves indexer files path idx
  generalize idx.attempt indexer files path = fate at hleaves
  generalize (idx.indexFile indexer files path).success = success at hleaves
  cases hleaves with
  | missing hmissing _ =>
      rw [hexists] at hmissing
      cases hmissing
  | failed message _ hrecord => simp [hrecord]
  | spared content _ hcurrent hsame =>
      obtain ⟨r, hrecord, -, -⟩ := isCurrent_eq_true_iff.mp hcurrent
      simp [hsame, hrecord]
  | stored content count _ hrecord => simp [hrecord]

end Rows

structure Holds (accepts : String → Bool) (idx : Index) : Prop where
  owned : idx.Owned
  rows : ∀ path, accepts path = false → idx.rowsOf path = .empty

section Holds

variable {accepts : String → Bool} {path : String} {idx after : Index}

private theorem holds_empty (accepts : String → Bool) : ({} : Index).Holds accepts :=
  ⟨owned_empty, fun _ _ => rfl⟩

/-- A step within the rows of an accepted file. -/
theorem Holds.confined (h : idx.Holds accepts) (haccepts : accepts path = true)
    (hconfined : idx.Confined path after) : after.Holds accepts := by
  refine ⟨hconfined.owned, ?_⟩
  intro other hrejected
  have hne : other ≠ path := by
    rintro rfl
    rw [haccepts] at hrejected
    cases hrejected
  rw [hconfined.rowsOf_eq hne]
  exact h.rows other hrejected

/-- Any file may be deleted, since there is nothing to delete of one that is not accepted. -/
theorem Holds.eraseFile (h : idx.Holds accepts) (path : String) :
    (idx.eraseFile path).Holds accepts := by
  cases haccepts : accepts path with
  | true => exact h.confined haccepts (h.owned.eraseFile path)
  | false =>
      rw [eraseFile_eq_self (h.rows path haccepts)]
      exact h

private theorem Holds.summarizeFiles (h : idx.Holds accepts) (indexer : Indexer)
    {tasks : List SummaryTask} (htasks : ∀ task ∈ tasks, accepts task.path = true) :
    (idx.summarizeFiles indexer tasks).Holds accepts := by
  unfold Index.summarizeFiles
  split
  · exact List.foldlRecOn (motive := Holds accepts) tasks (summarizeFile indexer) h
      fun last hlast task member =>
        hlast.confined (htasks task member) (hlast.owned.summarizeFile indexer task)
  · exact h

end Holds

end Index

namespace Workspace

/-- The states of a worker that runs cycles, from an empty index on: the worker, the workspace, and
in the middle of a cycle the files that are to be summarized at its end. All but the index and the
settings may change at any time, also between two changes that one cycle takes up. When the worker
wakes, the ignore file cannot be read or has the rules that the worker has read before. -/
inductive Tended (settings : Settings) : Worker → Workspace → List SummaryTask → Prop where
  | empty (worker : Worker) {w : Workspace} (hindex : w.index = {})
      (hsettings : w.settings = settings) : Tended settings worker w []
  | surroundings {worker : Worker} {w after : Workspace} {tasks : List SummaryTask}
      (h : Tended settings worker w tasks) (hindex : after.index = w.index)
      (hsettings : after.settings = w.settings) : Tended settings worker after tasks
  | takeChange {worker : Worker} {w : Workspace} {tasks : List SummaryTask} (change : Change)
      (h : Tended settings worker w tasks) :
      Tended settings worker (takeChange worker (w, tasks) change).1
        (takeChange worker (w, tasks) change).2
  | refused {worker : Worker} {w : Workspace} {tasks : List SummaryTask} {change : Change}
      (h : Tended settings worker w tasks) (hrefusal : (w.refusal? change).isSome = true) :
      Tended settings worker w []
  | summarizeFiles {worker : Worker} {w : Workspace} {tasks : List SummaryTask}
      (h : Tended settings worker w tasks) : Tended settings worker (w.summarizeFiles tasks) []
  | cycle {worker : Worker} {w : Workspace} (full : Bool) (h : Tended settings worker w []) :
      Tended settings ((w.cycle full worker).1.toOption.getD worker) (w.cycle full worker).2 []
  | wake {worker : Worker} {w : Workspace} (h : Tended settings worker w [])
      (hrules : ∀ rules, w.files.rules = .ok rules → rules = worker.rules) :
      Tended settings (w.wake worker).1 (w.wake worker).2 []

structure Gated (settings : Settings) (worker : Worker) (w : Workspace)
    (tasks : List SummaryTask) : Prop where
  unchanged : w.settings = settings
  index : w.index.Holds (worker.accepts settings)
  tasks : ∀ task ∈ tasks, worker.accepts settings task.path = true

section Steps

variable {settings : Settings} {worker : Worker} {w : Workspace} {tasks : List SummaryTask}

private theorem Gated.takeChange (h : Gated settings worker w tasks) (change : Change) :
    Gated settings worker (takeChange worker (w, tasks) change).1
      (takeChange worker (w, tasks) change).2 := by
  have htasks : ∀ task ∈ (Workspace.takeChange worker (w, tasks) change).2,
      worker.accepts settings task.path = true := by
    intro task member
    rcases mem_takeChange_tasks member with hold | ⟨hpath, haccepts⟩
    · exact h.tasks task hold
    · rw [hpath, ← h.unchanged]
      exact haccepts
  rcases takeChange_cases worker (w, tasks) change with
    ⟨-, heq⟩ | ⟨-, haccepts, heq⟩ | ⟨-, -, heq⟩
  · refine ⟨?_, ?_, htasks⟩
    · rw [heq]
      exact (deleteFile_continues change.path w).settings.trans h.unchanged
    · rw [heq]
      rcases w.deleteFile_cases change.path with hdone | hkept
      · rw [hdone]
        exact h.index.eraseFile change.path
      · rw [hkept]
        exact h.index
  · simp only [h.unchanged] at haccepts
    refine ⟨?_, ?_, htasks⟩
    · rw [heq]
      exact (indexFile_continues change.path w).settings.trans h.unchanged
    · rw [heq, indexFile_index]
      exact h.index.confined haccepts
        (h.index.owned.indexFile w.indexer_isLocal w.files change.path)
  · refine ⟨?_, ?_, htasks⟩
    · rw [heq]
      exact h.unchanged
    · rw [heq]
      exact h.index

/-- The files are read a second time for their summaries, whatever is in them by then. -/
theorem Gated.summarizeFiles (h : Gated settings worker w tasks) :
    Gated settings worker (w.summarizeFiles tasks) [] := by
  refine ⟨(summarizeFiles_continues tasks w).settings.trans h.unchanged, ?_, by simp⟩
  rw [summarizeFiles_index]
  exact h.index.summarizeFiles w.indexer h.tasks

private theorem Gated.takeChanges (h : Gated settings worker w []) (changes : List Change) :
    Gated settings worker (w.takeChanges worker changes).2 [] := by
  let start : Workspace × List SummaryTask := (w, [])
  have hfold (taken : List Change) : let state := taken.foldl (Workspace.takeChange worker) start
      Gated settings worker state.1 state.2 :=
    List.foldlRecOn (motive := fun state => Gated settings worker state.1 state.2)
      taken (Workspace.takeChange worker) (b := start) h
      fun _ hstate change _ => hstate.takeChange change
  by_cases hunrefused : w.Unrefused worker changes
  · rw [takeChanges_of_unrefused hunrefused]
    split
    · exact { hfold changes with tasks := by simp }
    · exact (hfold changes).summarizeFiles
  · obtain ⟨taken, failure, -, heq⟩ := takeChanges_of_refused hunrefused
    rw [heq]
    exact { hfold taken with tasks := by simp }

/-- A cycle changes nothing of the worker but the commit that it remembers. -/
private theorem cycle_worker (full : Bool) (worker : Worker) (w : Workspace) :
    ∃ lastCommit, (w.cycle full worker).1.toOption.getD worker = { worker with lastCommit } := by
  cases hlearned : w.learned full worker with
  | error failure =>
      rw [cycle_of_not_learned hlearned]
      exact ⟨worker.lastCommit, rfl⟩
  | ok changes =>
      rw [cycle_of_learned hlearned]
      split
      · exact ⟨worker.lastCommit, rfl⟩
      · exact ⟨_, rfl⟩

private theorem Gated.cycle (h : Gated settings worker w []) (full : Bool) :
    Gated settings ((w.cycle full worker).1.toOption.getD worker) (w.cycle full worker).2 [] := by
  have hasked : Gated settings worker (w.asked full worker) [] := { h with }
  have hafter : Gated settings worker (w.cycle full worker).2 [] := by
    cases hlearned : w.learned full worker with
    | error failure =>
        rw [cycle_of_not_learned hlearned]
        exact hasked
    | ok changes =>
        have htaken := hasked.takeChanges changes
        rw [cycle_of_learned hlearned]
        split
        next heq =>
          rw [heq] at htaken
          exact htaken
        next heq =>
          rw [heq] at htaken
          exact { htaken with }
  obtain ⟨lastCommit, hworker⟩ := cycle_worker full worker w
  rw [hworker]
  exact { hafter with }

/-- A worker that finds the same rules when it wakes, or none that it can read, runs a cycle or does
nothing. -/
private theorem wake_cases (hrules : ∀ rules, w.files.rules = .ok rules → rules = worker.rules) :
    w.wake worker = (worker, w) ∨
      w.wake worker =
        ((w.cycle false worker).1.toOption.getD worker, (w.cycle false worker).2) := by
  unfold Workspace.wake Worker.reload
  cases hfound : w.files.rules with
  | error failure => exact Or.inl rfl
  | ok rules =>
      rw [hrules rules hfound]
      refine Or.inr ?_
      simp only [Except.map]
      cases w.cycle false worker with
      | mk result after => cases result <;> rfl

private theorem Tended.gated (h : Tended settings worker w tasks) :
    Gated settings worker w tasks := by
  induction h with
  | @empty worker w hindex hsettings =>
      refine ⟨hsettings, ?_, by simp⟩
      rw [hindex]
      exact Index.holds_empty _
  | surroundings _ hindex hsettings ih =>
      refine ⟨hsettings.trans ih.unchanged, ?_, ih.tasks⟩
      rw [hindex]
      exact ih.index
  | takeChange change _ ih => exact ih.takeChange change
  | refused _ _ ih => exact { ih with tasks := by simp }
  | summarizeFiles _ ih => exact ih.summarizeFiles
  | cycle full _ ih => exact ih.cycle full
  | wake _ hrules ih =>
      rcases wake_cases hrules with heq | heq
      · rw [heq]
        exact ih
      · rw [heq]
        exact ih.cycle false

end Steps

/-- As long as the settings and the ignore file stay the same, no table of the index has a row of a
file that the worker does not take, at any moment of any run of cycles. The others do get in: a
change of a file that is there, and that is not a deletion, leaves a record of it exactly if the
worker takes it. -/
theorem index_has_rows_of_taken_files_only (settings : Settings) (worker : Worker) (w : Workspace)
    (tasks : List SummaryTask) (h : Tended settings worker w tasks) (path : String) :
    (worker.accepts settings path = false → w.index.rowsOf path = .empty) ∧
    ∀ change : Change, change.path = path → change.status ≠ .deleted →
      w.files.exists? path = true →
      ((takeChange worker (w, tasks) change).1.index.record? path ≠ none ↔
        worker.accepts settings path = true) := by
  have hgated := h.gated
  refine ⟨hgated.index.rows path, ?_⟩
  rintro change rfl hkept hexists
  constructor
  · intro hrecord
    cases haccepts : worker.accepts settings change.path with
    | true => rfl
    | false =>
        have hafter := (hgated.takeChange change).index.rows change.path haccepts
        exact absurd (Index.record?_eq_none_of_rowsOf hafter) hrecord
  · intro haccepts
    rcases takeChange_cases worker (w, tasks) change with
      ⟨hdeleted, -⟩ | ⟨-, -, heq⟩ | ⟨-, hrejected, -⟩
    · exact absurd hdeleted hkept
    · rw [heq, indexFile_index]
      exact Index.record?_indexFile_ne_none hexists w.indexer w.index
    · simp only [hgated.unchanged, haccepts] at hrejected
      cases hrejected

/-- A full cycle, then one that learns of changes with an unknown letter. Meanwhile the file that is
taken has changed and the table of texts fails. Neither the file that the rules leave out gets in
nor the one that the settings leave out; the other one is there, with its summary. -/
theorem ignored_files_have_no_rows_after_odd_changes :
    let files : Files :=
      { contents :=
          [(".gitignore", Text.Utf8.encode "b.py".toList), ("a.py", [120]), ("b.py", [120])] }
    let first : Workspace :=
      { files, window := ⟨40, 10⟩, analyzer := some .source, head := { output := "1" } }
    let created : Worker :=
      { rules := (Ignore.Rules.ofText "b.py".toList).toOption, suffixes := [".py"] }
    let worker := (first.cycle true created).1.toOption.getD created
    let w : Workspace :=
      { (first.cycle true created).2 with
        files := files.write "a.py" [121]
        diff := { output := "?\tb.py\nM\t.git/c.py\nT\ta.py" }
        faults := { insert := some "full" } }
    let last := (w.wake worker).2
    let taken := last.index.rowsOf "a.py"
    worker.lastCommit = some "1" ∧
      (taken.records.map (fun row => row.2.status), taken.summaries.length) = ([.failed], 1) ∧
      (∀ path ∈ ["b.py", ".git/c.py"], (w.wake worker).1.accepts {} path = false ∧
        last.index.rowsOf path = .empty) ∧
      (takeChange (w.wake worker).1 (last, []) ⟨"a.py", .modified⟩).1.index.record? "a.py" ≠
        none := by
  intro files first created worker w last taken
  have hchanged {worker : Worker} {w : Workspace} (h : Tended {} worker w []) (files : Files)
      (diff : Git.Answer) (faults : Faults) : Tended {} worker { w with files, diff, faults } [] :=
    .surroundings h rfl rfl
  have hfirst : Tended {} created first [] := .empty created rfl rfl
  have hw : Tended {} worker w [] := hchanged (.cycle true hfirst) _ _ _
  have hfound : w.files.rules.toOption = some worker.rules := by decide +kernel
  have hlast : Tended {} (w.wake worker).1 last [] := by
    refine .wake hw ?_
    intro rules hrules
    rw [hrules] at hfound
    exact Option.some.inj hfound
  have hrows := index_has_rows_of_taken_files_only {} (w.wake worker).1 last [] hlast
  have hignored : ∀ path ∈ ["b.py", ".git/c.py"], (w.wake worker).1.accepts {} path = false := by
    decide +kernel
  refine ⟨?_, ?_, fun path member => ⟨hignored path member, ?_⟩, ?_⟩
  · decide +kernel
  · decide +kernel
  · exact (hrows path).1 (hignored path member)
  · refine ((hrows "a.py").2 ⟨"a.py", .modified⟩ rfl (by decide) ?_).mpr ?_
    · decide +kernel
    · decide +kernel

end Workspace

end CodeIndex
