import CodeIndex.Proofs.Files
import CodeIndex.Proofs.Indexing
import CodeIndex.Worker.Cycle

/-!
Runs of the program, from an empty index on.

A run is made of attempts to index a file, deletions, summaries and cycles, in any order. Between
them all that surrounds the index may change: the files, the settings, the answers of version
control, and what goes wrong. `Reached.index_invariant` is the induction over runs. It asks what the
single steps keep; that a cycle keeps it too follows, since a cycle is made of the other steps.
-/

namespace CodeIndex.Workspace

section Parts

/-- A later workspace of a run without a change from outside: the settings and the current commit
are the same, texts are cut in the same way, the same goes wrong, and files may be lost but not be
written. -/
structure Continues (w after : Workspace) : Prop where
  splitter : after.splitter = w.splitter
  settings : after.settings = w.settings
  faults : after.faults = w.faults
  head : after.head = w.head
  texts : ∀ path content, after.files.readText path = .ok content →
    w.files.readText path = .ok content
  present : ∀ path, after.files.exists? path = true → w.files.exists? path = true

variable {w : Workspace}

private theorem continues_index (w : Workspace) (index : Index) : w.Continues { w with index } :=
  ⟨rfl, rfl, rfl, rfl, fun _ _ h => h, fun _ h => h⟩

theorem continues_note (w : Workspace) (commands : List Git.Command) :
    w.Continues (w.note commands) :=
  ⟨rfl, rfl, rfl, rfl, fun _ _ h => h, fun _ h => h⟩

theorem Continues.refl (w : Workspace) : w.Continues w :=
  w.continues_index w.index

theorem Continues.trans {after last : Workspace} (h₁ : w.Continues after)
    (h₂ : after.Continues last) : w.Continues last :=
  ⟨h₂.splitter.trans h₁.splitter, h₂.settings.trans h₁.settings, h₂.faults.trans h₁.faults,
    h₂.head.trans h₁.head, fun path content h => h₁.texts path content (h₂.texts path content h),
    fun path h => h₁.present path (h₂.present path h)⟩

/-- When a text of a file is stored, the file may be lost. -/
theorem stored_cases (path : String) (w : Workspace) :
    w.stored path = w ∨ w.stored path = { w with files := w.files.remove path } := by
  unfold stored
  cases w.insertion with
  | fails message => exact Or.inl rfl
  | listed | sequenced | silent =>
      simp only [Bool.false_eq_true, ↓reduceIte]
      split
      · exact Or.inr rfl
      · exact Or.inl rfl

private theorem stored_index (path : String) (w : Workspace) : (w.stored path).index = w.index := by
  rcases w.stored_cases path with h | h <;> rw [h]

private theorem stored_continues (path : String) (w : Workspace) : w.Continues (w.stored path) := by
  rcases w.stored_cases path with h | h
  · rw [h]
    exact .refl w
  · rw [h]
    exact ⟨rfl, rfl, rfl, rfl, fun _ _ => Files.readText_of_readText_remove,
      fun _ => Files.exists?_of_exists?_remove⟩

/-- An attempt of the workspace does to its index what the indexer does. -/
theorem indexFile_index (path : String) (w : Workspace) :
    (w.indexFile path).2.index = (w.index.indexFile w.indexer w.files path).index := by
  unfold indexFile
  simp only
  split
  · rw [stored_index]
  · rfl

theorem indexFile_continues (path : String) (w : Workspace) :
    w.Continues (w.indexFile path).2 := by
  unfold indexFile
  simp only
  split
  · exact (w.continues_index _).trans (stored_continues path _)
  · exact w.continues_index _

/-- The files that are lost when summaries are stored do not concern the index. -/
private theorem foldl_stored (order : Summary.SetOrder) (tasks : List SummaryTask)
    (w : Workspace) :
    let after := tasks.foldl (fun last task =>
      match Summary.ofFile order task.content task.language with
      | .ok _ => last.stored task.path
      | .error _ => last) w
    after.index = w.index ∧ w.Continues after := by
  induction tasks generalizing w with
  | nil => exact ⟨rfl, .refl w⟩
  | cons task rest ih =>
      simp only [List.foldl_cons]
      cases Summary.ofFile order task.content task.language with
      | error failure => exact ih w
      | ok summary =>
          obtain ⟨hindex, hcontinues⟩ := ih (w.stored task.path)
          exact ⟨hindex.trans (stored_index task.path w),
            (stored_continues task.path w).trans hcontinues⟩

theorem summarizeFiles_index (tasks : List SummaryTask) (w : Workspace) :
    (w.summarizeFiles tasks).index = w.index.summarizeFiles w.indexer tasks := by
  unfold summarizeFiles
  simp only
  split
  · exact (foldl_stored w.order tasks _).1
  · rfl

theorem summarizeFiles_continues (tasks : List SummaryTask) (w : Workspace) :
    w.Continues (w.summarizeFiles tasks) := by
  unfold summarizeFiles
  simp only
  split
  · exact (w.continues_index _).trans (foldl_stored w.order tasks _).2
  · exact w.continues_index _

/-- A deletion takes the file out, or fails and changes nothing. -/
theorem deleteFile_cases (path : String) (w : Workspace) :
    w.deleteFile path = (.ok (), { w with index := w.index.eraseFile path }) ∨
      w.deleteFile path = (.error .tooManyRows, w) := by
  unfold deleteFile
  refine (w.index.deleteFile_cases w.faults.nameable path).imp (fun h => ?_) fun h => ?_
  · rw [h]
  · rw [h]

/-- A deletion changes nothing but the index. -/
theorem deleteFile_eq (path : String) (w : Workspace) :
    (w.deleteFile path).2 =
      { w with index := w.index.afterDelete w.faults.nameable path } := by
  unfold deleteFile Index.afterDelete
  cases w.index.deleteFile w.faults.nameable path <;> rfl

theorem deleteFile_continues (path : String) (w : Workspace) :
    w.Continues (w.deleteFile path).2 := by
  rw [deleteFile_eq]
  exact w.continues_index _

end Parts

section Cycles

def learned (full : Bool) (worker : Worker) (w : Workspace) :
    Except Git.ChangeFailure (List Change) :=
  Git.changesSince w.files.paths (if full then none else worker.lastCommit) w.diff

def asked (full : Bool) (worker : Worker) (w : Workspace) : Workspace :=
  w.note (Git.changeCommands (if full then none else worker.lastCommit))

/-- A cycle that does not learn the changes ends with having asked for them. -/
theorem cycle_of_not_learned {full : Bool} {worker : Worker} {failure : Git.ChangeFailure}
    {w : Workspace} (h : w.learned full worker = .error failure) :
    w.cycle full worker = (.error (.changes failure), w.asked full worker) := by
  have hasked : Git.changesSince (w.asked full worker).files.paths
      (if full then none else worker.lastCommit) (w.asked full worker).diff = .error failure := h
  unfold cycle
  simp only [asked] at hasked ⊢
  rw [hasked]

/-- What a change does: a deleted file is taken out of the index, a file that the worker takes is
indexed, and any other one is left alone. -/
theorem takeChange_cases (worker : Worker) (state : Workspace × List SummaryTask)
    (change : Change) :
    let after := (takeChange worker state change).1
    (change.status = .deleted ∧ after = (state.1.deleteFile change.path).2) ∨
    (change.status ≠ .deleted ∧ worker.accepts state.1.settings change.path = true ∧
      after = (state.1.indexFile change.path).2) ∨
    (change.status ≠ .deleted ∧ worker.accepts state.1.settings change.path = false ∧
      after = state.1) := by
  obtain ⟨w, tasks⟩ := state
  unfold takeChange
  simp only
  split
  next hdeleted => exact Or.inl ⟨hdeleted, rfl⟩
  next hkept =>
    split
    next haccepts =>
      refine Or.inr (Or.inl ⟨hkept, haccepts, ?_⟩)
      cases w.indexFile change.path with
      | mk success after => cases success <;> rfl
    next hrefused => exact Or.inr (Or.inr ⟨hkept, Bool.eq_false_iff.mpr hrefused, rfl⟩)

theorem path_of_summaryTask? {path : String} {task : SummaryTask} {w : Workspace}
    (h : w.summaryTask? path = some task) : task.path = path := by
  unfold summaryTask? at h
  split at h
  · split at h
    · cases h
      rfl
    · cases h
  · cases h

/-- What a change adds to what is to be summarized: its own file at most, and that only if the
worker takes it. -/
theorem mem_takeChange_tasks {worker : Worker} {state : Workspace × List SummaryTask}
    {change : Change} {task : SummaryTask} (h : task ∈ (takeChange worker state change).2) :
    task ∈ state.2 ∨
      task.path = change.path ∧ worker.accepts state.1.settings change.path = true := by
  obtain ⟨w, tasks⟩ := state
  unfold takeChange at h
  simp only at h
  split at h
  · exact Or.inl h
  · split at h
    next haccepts =>
      cases hindexed : w.indexFile change.path with
      | mk success after =>
          rw [hindexed] at h
          cases success with
          | false => exact Or.inl h
          | true =>
              rcases List.mem_append.mp h with hold | hnew
              · exact Or.inl hold
              · exact Or.inr ⟨path_of_summaryTask? (Option.mem_toList.mp hnew), haccepts⟩
    next => exact Or.inl h

theorem takeChange_continues (worker : Worker) (state : Workspace × List SummaryTask)
    (change : Change) : state.1.Continues (takeChange worker state change).1 := by
  rcases takeChange_cases worker state change with ⟨-, heq⟩ | ⟨-, -, heq⟩ | ⟨-, -, heq⟩
  · rw [heq]
    exact deleteFile_continues change.path state.1
  · rw [heq]
    exact indexFile_continues change.path state.1
  · rw [heq]
    exact .refl state.1

/-- A change that is refused would change nothing. -/
theorem takeChange_of_refusal {worker : Worker} {state : Workspace × List SummaryTask}
    {change : Change} {failure : StoreFailure} (h : state.1.refusal? change = some failure) :
    takeChange worker state change = state := by
  unfold refusal? at h
  unfold takeChange
  split at h
  next hdeleted =>
    rcases state.1.deleteFile_cases change.path with heq | heq
    · rw [heq] at h
      cases h
    · simp only [hdeleted, heq, ↓reduceIte]
  next => cases h

/-- Changes are taken up from the first one on, and all of them unless one is refused. -/
theorem takeEach_eq_foldl (worker : Worker) (changes : List Change)
    (state : Workspace × List SummaryTask) :
    ∃ taken, taken <+: changes ∧
      (takeEach worker changes state).2 = taken.foldl (takeChange worker) state ∧
      ((takeEach worker changes state).1 = none → taken = changes) := by
  induction changes generalizing state with
  | nil => exact ⟨[], List.prefix_rfl, rfl, fun _ => rfl⟩
  | cons change later ih =>
      unfold takeEach
      cases state.1.refusal? change with
      | some failure => exact ⟨[], List.nil_prefix, rfl, fun h => nomatch h⟩
      | none =>
          obtain ⟨taken, hinitial, hstate, hall⟩ := ih (takeChange worker state change)
          refine ⟨change :: taken, ?_, hstate, fun h => congrArg (change :: ·) (hall h)⟩
          exact List.cons_prefix_cons.mpr ⟨rfl, hinitial⟩

/-- No change is refused, when the changes are taken up one after the other. -/
def Unrefused (worker : Worker) (changes : List Change) (w : Workspace) : Prop :=
  (takeEach worker changes (w, [])).1 = none

/-- None of the changes is refused if the first one is not, nor any of those after it. -/
theorem takeEach_cons_eq_none_iff {worker : Worker} {change : Change} {later : List Change}
    {state : Workspace × List SummaryTask} :
    (takeEach worker (change :: later) state).1 = none ↔
      state.1.refusal? change = none ∧
        (takeEach worker later (takeChange worker state change)).1 = none := by
  rw [takeEach]
  cases state.1.refusal? change with
  | some failure => simp
  | none => simp

/-- A change that asks for no deletion is not refused. -/
theorem unrefused_of_kept (worker : Worker) {changes : List Change}
    (h : ∀ change ∈ changes, change.status ≠ .deleted) (w : Workspace) :
    w.Unrefused worker changes := by
  have hall : ∀ state, (takeEach worker changes state).1 = none := by
    induction changes with
    | nil => exact fun _ => rfl
    | cons change later ih =>
        intro state
        have hfirst : state.1.refusal? change = none := if_neg (h change List.mem_cons_self)
        refine takeEach_cons_eq_none_iff.mpr ⟨hfirst, ih ?_ _⟩
        exact fun change member => h change (List.mem_cons_of_mem _ member)
  exact hall (w, [])

/-- No change is refused where a command can name any number of rows. -/
theorem unrefused_of_unlimited (worker : Worker) (changes : List Change) {w : Workspace}
    (h : w.faults.nameable = none) : w.Unrefused worker changes := by
  have hall : ∀ state : Workspace × List SummaryTask, state.1.faults.nameable = none →
      (takeEach worker changes state).1 = none := by
    induction changes with
    | nil => exact fun _ _ => rfl
    | cons change later ih =>
        intro state hstate
        have hfirst : state.1.refusal? change = none := by
          unfold refusal? deleteFile
          rw [hstate]
          split <;> rfl
        refine takeEach_cons_eq_none_iff.mpr ⟨hfirst, ih _ ?_⟩
        rw [(takeChange_continues worker state change).faults]
        exact hstate
  exact hall (w, []) h

variable {full : Bool} {worker : Worker} {changes : List Change} {w : Workspace}

def UnrefusedCycle (full : Bool) (worker : Worker) (w : Workspace) : Prop :=
  ∀ changes, w.learned full worker = .ok changes → (w.asked full worker).Unrefused worker changes

theorem unrefusedCycle_of_unlimited (full : Bool) (worker : Worker)
    (h : w.faults.nameable = none) : w.UnrefusedCycle full worker :=
  fun changes _ => unrefused_of_unlimited worker changes h

/-- Changes of which none is refused are taken up one after the other, and then come the summaries.
-/
theorem takeChanges_of_unrefused (h : w.Unrefused worker changes) :
    let taken := changes.foldl (takeChange worker) (w, [])
    w.takeChanges worker changes =
      (none, if taken.2.isEmpty then taken.1 else taken.1.summarizeFiles taken.2) := by
  obtain ⟨taken, -, hstate, hall⟩ := takeEach_eq_foldl worker changes (w, [])
  rw [hall h] at hstate
  have heach : takeEach worker changes (w, []) =
      (none, changes.foldl (takeChange worker) (w, [])) := Prod.ext h hstate
  intro taken
  rw [takeChanges, heach]

/-- At a change that is refused nothing more is taken up, and nothing is summarized. -/
theorem takeChanges_of_refused (h : ¬w.Unrefused worker changes) :
    ∃ taken failure, taken <+: changes ∧ w.takeChanges worker changes =
      (some failure, (taken.foldl (takeChange worker) (w, [])).1) := by
  obtain ⟨taken, hinitial, hstate, -⟩ := takeEach_eq_foldl worker changes (w, [])
  obtain ⟨failure, hfailure⟩ := Option.ne_none_iff_exists'.mp h
  have heach : takeEach worker changes (w, []) =
      (some failure, taken.foldl (takeChange worker) (w, [])) := Prod.ext hfailure hstate
  exact ⟨taken, failure, hinitial, by rw [takeChanges, heach]⟩

/-- The summaries at the end of the changes concern the tables of summaries only. -/
theorem takeChanges_index (worker : Worker) (changes : List Change) (w : Workspace) :
    ∃ taken summaries summaryStore, taken <+: changes ∧
      (w.Unrefused worker changes → taken = changes) ∧
      (w.takeChanges worker changes).2.index =
        { (taken.foldl (takeChange worker) (w, [])).1.index with summaries, summaryStore } := by
  by_cases h : w.Unrefused worker changes
  · refine ⟨changes, ?_⟩
    rw [takeChanges_of_unrefused h]
    split
    · exact ⟨_, _, List.prefix_rfl, fun _ => rfl, rfl⟩
    · rw [summarizeFiles_index]
      obtain ⟨summaries, summaryStore, heq⟩ := Index.summarizeFiles_eq _ _ _
      exact ⟨summaries, summaryStore, List.prefix_rfl, fun _ => rfl, heq⟩
  · obtain ⟨taken, failure, hinitial, heq⟩ := takeChanges_of_refused h
    rw [heq]
    exact ⟨taken, _, _, hinitial, fun hall => absurd hall h, rfl⟩

/-- A cycle that learns its changes takes them up. If one of them is refused it ends there, and
otherwise the worker remembers the current commit. -/
theorem cycle_of_learned (h : w.learned full worker = .ok changes) :
    w.cycle full worker =
      match (w.asked full worker).takeChanges worker changes with
      | (some failure, after) => (.error (.deletion failure), after)
      | (none, after) =>
        (.ok { worker with lastCommit := Git.currentCommit after.head },
          after.note [Git.headCommand]) := by
  have hasked : Git.changesSince (w.asked full worker).files.paths
      (if full then none else worker.lastCommit) (w.asked full worker).diff = .ok changes := h
  rcases hended : (w.asked full worker).takeChanges worker changes with ⟨_ | failure, after⟩
  all_goals
    unfold cycle
    simp only [asked] at hasked hended
    simp only [hasked, hended]

theorem cycle_of_unrefused (h : w.learned full worker = .ok changes)
    (hunrefused : (w.asked full worker).Unrefused worker changes) :
    let after := ((w.asked full worker).takeChanges worker changes).2
    w.cycle full worker =
      (.ok { worker with lastCommit := Git.currentCommit after.head },
        after.note [Git.headCommand]) := by
  rw [cycle_of_learned h, takeChanges_of_unrefused hunrefused]

theorem cycle_index_of_learned (h : w.learned full worker = .ok changes) :
    (w.cycle full worker).2.index =
      ((w.asked full worker).takeChanges worker changes).2.index := by
  rw [cycle_of_learned h]
  split
  next heq => rw [heq]
  next heq =>
    rw [heq]
    rfl

variable {P : Workspace → Prop}

/-- What holds when the changes of a cycle are taken up, or as many of them as are, and is kept by
what follows, holds after the cycle. -/
theorem cycle_of_takeEach (hsummarize : ∀ w tasks, P w → P (w.summarizeFiles tasks))
    (hnote : ∀ w commands, P w → P (w.note commands))
    (heach : ∀ changes, w.learned full worker = .ok changes →
      P (takeEach worker changes (w.asked full worker, [])).2.1)
    (hunlearned : ∀ failure, w.learned full worker = .error failure → P (w.asked full worker)) :
    P (w.cycle full worker).2 := by
  cases hlearned : w.learned full worker with
  | error failure =>
      rw [cycle_of_not_learned hlearned]
      exact hunlearned failure hlearned
  | ok changes =>
      have htaken := heach changes hlearned
      rw [cycle_of_learned hlearned]
      unfold takeChanges
      cases hstate : takeEach worker changes (w.asked full worker, []) with
      | mk refusal state =>
          rw [hstate] at htaken
          cases refusal with
          | some failure => exact htaken
          | none =>
              refine hnote _ _ ?_
              split
              · exact htaken
              · exact hsummarize _ _ htaken

/-- What the steps that a cycle is made of keep, the cycle keeps. -/
private theorem cycle_preserves (hindex : ∀ w path, P w → P (w.indexFile path).2)
    (hdelete : ∀ w path, P w → P (w.deleteFile path).2)
    (hsummarize : ∀ w tasks, P w → P (w.summarizeFiles tasks))
    (hnote : ∀ w commands, P w → P (w.note commands))
    (full : Bool) (worker : Worker) (w : Workspace) (h : P w) : P (w.cycle full worker).2 := by
  have hchange : ∀ (state : Workspace × List SummaryTask) change, P state.1 →
      P (takeChange worker state change).1 := by
    intro state change h
    rcases takeChange_cases worker state change with ⟨-, heq⟩ | ⟨-, -, heq⟩ | ⟨-, -, heq⟩
    · rw [heq]
      exact hdelete state.1 change.path h
    · rw [heq]
      exact hindex state.1 change.path h
    · rw [heq]
      exact h
  have hasked : P (w.asked full worker) := hnote w _ h
  refine cycle_of_takeEach hsummarize hnote ?_ fun _ _ => hasked
  intro changes _
  let start : Workspace × List SummaryTask := (w.asked full worker, [])
  obtain ⟨taken, -, hstate, -⟩ := takeEach_eq_foldl worker changes start
  rw [hstate]
  exact List.foldlRecOn (motive := fun state => P state.1) taken (takeChange worker)
    (b := start) hasked fun state h change _ => hchange state change h

end Cycles

/-- The workspaces of a run from an empty index on. Between two steps all but the index may change,
to anything that is admitted. A cycle is made of the other steps, so a run in which the files change
or something fails in the middle of a cycle is among these runs as well. -/
inductive Reached (admitted : Workspace → Prop) : Workspace → Prop where
  | empty {w : Workspace} (hindex : w.index = {}) (hadmitted : admitted w) : Reached admitted w
  | surroundings {w after : Workspace} (h : Reached admitted w) (hindex : after.index = w.index)
      (hadmitted : admitted after) : Reached admitted after
  | indexFile {w : Workspace} (path : String) (h : Reached admitted w) :
      Reached admitted (w.indexFile path).2
  | deleteFile {w : Workspace} (path : String) (h : Reached admitted w) :
      Reached admitted (w.deleteFile path).2
  | summarizeFiles {w : Workspace} (tasks : List SummaryTask) (h : Reached admitted w) :
      Reached admitted (w.summarizeFiles tasks)
  | cycle {w : Workspace} (full : Bool) (worker : Worker) (h : Reached admitted w) :
      Reached admitted (w.cycle full worker).2

/-- The induction over runs, for what is said about the index alone. -/
theorem Reached.index_invariant {admitted : Workspace → Prop} {Inv : Index → Prop}
    (hstable : ∀ w after, w.Continues after → admitted w → admitted after)
    (hempty : Inv {})
    (hindex : ∀ w path, admitted w → Inv w.index →
      Inv (w.index.indexFile w.indexer w.files path).index)
    (hdelete : ∀ idx path, Inv idx → Inv (idx.eraseFile path))
    (hsummarize : ∀ w tasks, admitted w → Inv w.index →
      Inv (w.index.summarizeFiles w.indexer tasks))
    {w : Workspace} (h : Reached admitted w) : admitted w ∧ Inv w.index := by
  have hindexFile : ∀ w path, admitted w ∧ Inv w.index →
      admitted (w.indexFile path).2 ∧ Inv (w.indexFile path).2.index := by
    intro w path h
    rw [indexFile_index]
    exact ⟨hstable _ _ (indexFile_continues path w) h.1, hindex w path h.1 h.2⟩
  have hdeleteFile : ∀ w path, admitted w ∧ Inv w.index →
      admitted (w.deleteFile path).2 ∧ Inv (w.deleteFile path).2.index := by
    intro w path h
    refine ⟨hstable _ _ (deleteFile_continues path w) h.1, ?_⟩
    rcases w.deleteFile_cases path with heq | heq
    · rw [heq]
      exact hdelete w.index path h.2
    · rw [heq]
      exact h.2
  have hsummarizeFiles : ∀ w tasks, admitted w ∧ Inv w.index →
      admitted (w.summarizeFiles tasks) ∧ Inv (w.summarizeFiles tasks).index := by
    intro w tasks h
    rw [summarizeFiles_index]
    exact ⟨hstable _ _ (summarizeFiles_continues tasks w) h.1, hsummarize w tasks h.1 h.2⟩
  induction h with
  | empty hindex hadmitted => exact ⟨hadmitted, by rw [hindex]; exact hempty⟩
  | surroundings _ hindex hadmitted ih => exact ⟨hadmitted, by rw [hindex]; exact ih.2⟩
  | indexFile path _ ih => exact hindexFile _ path ih
  | deleteFile path _ ih => exact hdeleteFile _ path ih
  | summarizeFiles tasks _ ih => exact hsummarizeFiles _ tasks ih
  | cycle full worker _ ih =>
      refine cycle_preserves hindexFile hdeleteFile hsummarizeFiles ?_ full worker _ ih
      exact fun w commands h => ⟨hstable w _ (w.continues_note commands) h.1, h.2⟩

/-- The tables of texts list the numbers of new rows when they do not fail. -/
def Lists (w : Workspace) : Prop :=
  w.faults.answer = .listed

theorem Lists.insertion_definite {w : Workspace} (h : w.Lists) :
    w.indexer.insertion.IsDefinite := by
  change w.insertion.IsDefinite
  unfold insertion
  cases w.faults.insert with
  | some message => trivial
  | none =>
      have hanswer : w.faults.answer = .listed := h
      simp only [hanswer]
      trivial

/-- The tables go on to list numbers as long as nothing changes from outside. -/
theorem Lists.continues {w after : Workspace} (h : w.Lists) (hcontinues : w.Continues after) :
    after.Lists := by
  unfold Lists
  rw [hcontinues.faults]
  exact h

structure Orderly (w : Workspace) : Prop where
  lists : w.Lists
  wellFormed : w.index.WellFormed

theorem Orderly.asked {w : Workspace} (h : w.Orderly) (full : Bool) (worker : Worker) :
    (w.asked full worker).Orderly :=
  ⟨h.lists, h.wellFormed⟩

/-- In every run in which the tables list numbers, they agree with each other. -/
theorem Reached.orderly {w : Workspace} (h : Reached Lists w) : w.Orderly := by
  have hboth : w.Lists ∧ w.index.WellFormed := by
    refine h.index_invariant ?_ Index.wellFormed_empty ?_ ?_ ?_
    · exact fun w after hcontinues hlists => hlists.continues hcontinues
    · intro w path hlists hwell
      exact (hwell.indexFile hlists.insertion_definite w.files path).wellFormed
    · exact fun idx path hwell => hwell.eraseFile path
    · exact fun w tasks _ hwell => hwell.summarizeFiles w.indexer tasks
  exact ⟨hboth.1, hboth.2⟩

end CodeIndex.Workspace
