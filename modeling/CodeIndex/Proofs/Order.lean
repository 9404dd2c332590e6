import CodeIndex.Proofs.Changes
import CodeIndex.Proofs.Views

/-!
The order in which changes are found does not matter.

Rows are numbered in the order in which they are put in, and numbers are given again after rows are
erased, so two orders give different tables from the first step on. What they have in common is the
view of each file. A step stays within its own file, and what it makes of the file depends on the
view of that file alone (`Local`). With one change for each file, the view of a file after all
changes is therefore that after its own change, taken up first.
-/

namespace CodeIndex

namespace Files

variable {f g : Files} {path : String}

/-- Files are read by what their paths lead to. -/
private theorem readText_congr (h : g.entry path = f.entry path) :
    g.readText path = f.readText path := by
  rw [readText, h, readText]

private theorem lookup_perm {entries others : List (String × List UInt8)}
    (hperm : entries.Perm others) (hdistinct : (entries.map Prod.fst).Nodup) (path : String) :
    entries.lookup path = others.lookup path := by
  induction hperm with
  | nil => rfl
  | cons entry _ ih =>
      rw [List.lookup_cons, List.lookup_cons, ih (List.nodup_cons.mp hdistinct).2]
  | swap first second rest =>
      have hne : second.1 ≠ first.1 := by
        intro hsame
        simp [hsame] at hdistinct
      rw [List.lookup_cons, List.lookup_cons, List.lookup_cons, List.lookup_cons]
      cases hfirst : path == first.1 with
      | false => rfl
      | true =>
          have hsecond : (path == second.1) = false := by
            rw [eq_of_beq hfirst]
            exact beq_eq_false_iff_ne.mpr hne.symm
          simp [hsecond]
  | trans hleft _ ih₁ ih₂ =>
      rw [ih₁ hdistinct, ih₂ ((hleft.map Prod.fst).nodup_iff.mp hdistinct)]

/-- Paths lead to the same, in whatever order the files are listed. -/
private theorem entry_eq_of_perm (hperm : f.contents.Perm g.contents) (hdistinct : f.paths.Nodup)
    (hdirectories : g.directories = f.directories) (path : String) :
    g.entry path = f.entry path := by
  have hdirectory (name : FileName) : g.isDirectory name = f.isDirectory name := by
    rw [isDirectory, hdirectories, isDirectory]
  have hentry (name : FileName) : g.entryOf name = f.entryOf name := by
    rw [entryOf, ← lookup_perm hperm hdistinct, hdirectory, entryOf]
  have hfollow (name steps : FileName) : g.follow name steps = f.follow name steps := by
    induction steps generalizing name with
    | nil => exact hentry name.reverse
    | cons step rest ih =>
        simp only [follow, hdirectory, ih]
  rw [entry, hfollow, entry]

end Files

namespace Index

section Local

variable {κ : Type} {key : κ → String} {step : Index → κ → Index} {items others : List κ}
  {idx other : Index} {path : String}

/-- Each step concerns one file: it stays within the rows of the file, and what it makes of the file
depends on nothing else. -/
structure Local (key : κ → String) (step : Index → κ → Index) : Prop where
  confined : ∀ {idx : Index}, idx.Owned → ∀ item, Confined (key item) idx (step idx item)
  alike : ∀ {idx other : Index} (item : κ), idx.Owned → other.Owned → Alike (key item) idx other →
    Alike (key item) (step idx item) (step other item)

theorem Local.foldl_owned (h : Local key step) (howned : idx.Owned) (items : List κ) :
    (items.foldl step idx).Owned :=
  List.foldlRecOn (motive := Owned) items step howned
    fun _ hlast item _ => (h.confined hlast item).owned

/-- A step keeps every file alike in which the indices are alike, its own file or not. -/
private theorem Local.step_alike (h : Local key step) (item : κ) (howned : idx.Owned)
    (hother : other.Owned) (halike : Alike path idx other) :
    Alike path (step idx item) (step other item) := by
  by_cases hpath : path = key item
  · subst hpath
    exact h.alike item howned hother halike
  · have hidx := (h.confined howned item).alike hpath
    exact hidx.symm.trans (halike.trans ((h.confined hother item).alike hpath))

/-- Steps do the same to a file in indices that are alike in it, whatever else the indices hold. -/
theorem Local.foldl_alike (h : Local key step) (items : List κ) (howned : idx.Owned)
    (hother : other.Owned) (halike : Alike path idx other) :
    Alike path (items.foldl step idx) (items.foldl step other) := by
  induction items generalizing idx other with
  | nil => exact halike
  | cons first rest ih =>
      exact ih (h.confined howned first).owned (h.confined hother first).owned
        (h.step_alike first howned hother halike)

/-- A file that no step names is left alone. -/
theorem Local.foldl_alike_of_not_named (h : Local key step) (howned : idx.Owned)
    (hnamed : ∀ item ∈ items, path ≠ key item) : Alike path idx (items.foldl step idx) := by
  let kept (last : Index) : Prop := last.Owned ∧ Alike path idx last
  refine (List.foldlRecOn (motive := kept) items step ⟨howned, .refl path idx⟩ ?_).2
  intro last hlast item member
  have hstep := h.confined hlast.1 item
  exact ⟨hstep.owned, hlast.2.trans (hstep.alike (hnamed item member))⟩

/-- Where no two steps name one file, a file is as if its own step were the only one. -/
private theorem Local.foldl_alike_of_mem (h : Local key step) (howned : idx.Owned)
    (hdistinct : (items.map key).Nodup) {item : κ} (member : item ∈ items) :
    Alike (key item) (step idx item) (items.foldl step idx) := by
  induction items generalizing idx with
  | nil => cases member
  | cons first rest ih =>
      obtain ⟨hfirst, hrest⟩ := List.nodup_cons.mp hdistinct
      have hstep := h.confined howned first
      rcases List.mem_cons.mp member with rfl | hmember
      · refine h.foldl_alike_of_not_named hstep.owned ?_
        intro later hlater hsame
        exact hfirst (hsame ▸ List.mem_map_of_mem hlater)
      · have hne : key item ≠ key first := fun hsame => hfirst (hsame ▸ List.mem_map_of_mem hmember)
        have hbefore := h.alike item howned hstep.owned (hstep.alike hne)
        exact hbefore.trans (ih hstep.owned hrest hmember)

/-- Steps about different files can be made in any order. -/
private theorem Local.foldl_perm (h : Local key step) (howned : idx.Owned)
    (hdistinct : (items.map key).Nodup) (hperm : items.Perm others) (path : String) :
    Alike path (items.foldl step idx) (others.foldl step idx) := by
  by_cases hnamed : ∃ item ∈ items, key item = path
  · obtain ⟨item, member, rfl⟩ := hnamed
    have hthere : (others.map key).Nodup := (hperm.map key).nodup_iff.mp hdistinct
    have hitems := h.foldl_alike_of_mem howned hdistinct member
    exact hitems.symm.trans (h.foldl_alike_of_mem howned hthere (hperm.mem_iff.mp member))
  · have hitems : ∀ item ∈ items, path ≠ key item :=
      fun item member hsame => hnamed ⟨item, member, hsame.symm⟩
    have hothers : ∀ item ∈ others, path ≠ key item :=
      fun item member => hitems item (hperm.mem_iff.mpr member)
    exact (h.foldl_alike_of_not_named howned hitems).symm.trans
      (h.foldl_alike_of_not_named howned hothers)

end Local

section Steps

variable {indexer : Indexer} {files : Files} {accepts : String → Bool} {idx other : Index}

theorem applyChange_local (hlocal : indexer.IsLocal) (hfaultless : indexer.IsFaultless) :
    Local Change.path (applyChange indexer files accepts) where
  confined howned change := by
    unfold applyChange
    split
    · exact howned.afterDelete indexer.nameable change.path
    · split
      · exact howned.indexFile hlocal files change.path
      · exact howned.confined change.path
  alike change howned hother h := by
    unfold applyChange
    split
    · rw [hfaultless.unlimited]
      exact h.eraseFile
    · split
      · exact (h.indexFile howned hother hlocal hfaultless files).1
      · exact h

theorem summarizeFile_local (hlisted : indexer.insertion = .listed) :
    Local SummaryTask.path (summarizeFile indexer) where
  confined howned task := howned.summarizeFile indexer task
  alike _ howned hother h := h.summarizeFile howned hother hlisted

/-- Summaries of different files can be made in any order, from indices that are alike. -/
private theorem summarizeFiles_alike (hlisted : indexer.insertion = .listed) (howned : idx.Owned)
    (hother : other.Owned) (halike : ∀ path, Alike path idx other) {tasks others : List SummaryTask}
    (hdistinct : (tasks.map SummaryTask.path).Nodup) (hperm : tasks.Perm others) (path : String) :
    Alike path (idx.summarizeFiles indexer tasks) (other.summarizeFiles indexer others) := by
  have hstep : Local SummaryTask.path (summarizeFile indexer) := summarizeFile_local hlisted
  unfold summarizeFiles
  split
  · exact (hstep.foldl_perm howned hdistinct hperm path).trans
      (hstep.foldl_alike others howned hother (halike path))
  · exact halike path

/-- An attempt sees the files by what paths lead to. -/
private theorem indexFile_congr {files others : Files}
    (h : ∀ path, others.entry path = files.entry path) (path : String) (idx : Index) :
    idx.indexFile indexer others path = idx.indexFile indexer files path := by
  have hexists : others.exists? path = files.exists? path := by rw [Files.exists?, h, Files.exists?]
  rw [indexFile, hexists, Files.readText_congr (h path), indexFile]

private theorem applyChange_congr {files others : Files}
    (h : ∀ path, others.entry path = files.entry path) :
    applyChange indexer others accepts = applyChange indexer files accepts := by
  funext idx change
  simp only [applyChange, indexFile_congr h]

end Steps

end Index

namespace Workspace

variable {w : Workspace} {worker : Worker} {changes others : List Change}

section Tasks

def task? (worker : Worker) (succeeds : String → Bool) (w : Workspace) (change : Change) :
    Option SummaryTask :=
  if change.status ≠ .deleted ∧ worker.accepts w.settings change.path = true ∧
      succeeds change.path = true then w.summaryTask? change.path
  else none

theorem path_of_task? {succeeds : String → Bool} {change : Change} {task : SummaryTask}
    (h : w.task? worker succeeds change = some task) : task.path = change.path := by
  unfold task? at h
  split at h
  · exact path_of_summaryTask? h
  · cases h

def succeeds (w : Workspace) (path : String) : Bool :=
  (w.index.indexFile w.indexer w.files path).success

theorem takeChange_eq_of_faultless (h : w.faults = {}) (worker : Worker) (tasks : List SummaryTask)
    (change : Change) :
    takeChange worker (w, tasks) change =
      ({ w with
          index := w.index.applyChange w.indexer w.files (worker.accepts w.settings) change },
        tasks ++ (w.task? worker w.succeeds change).toList) := by
  have hfirst := takeChange_of_faultless h worker tasks change
  have hstored := indexFile_of_faultless h change.path
  refine Prod.ext hfirst ?_
  unfold takeChange task?
  by_cases hdeleted : change.status = .deleted
  · simp [hdeleted]
  · by_cases haccepts : worker.accepts w.settings change.path = true
    · cases hindex : w.indexFile change.path with
      | mk success after =>
          have hsuccess : w.succeeds change.path = success := congrArg Prod.fst hindex
          rw [hindex] at hstored
          cases hstored
          cases success with
          | true =>
              simp only [hdeleted, haccepts, hindex, hsuccess, ne_eq, not_false_eq_true, and_self,
                ↓reduceIte]
              rfl
          | false => simp [hdeleted, haccepts, hindex, hsuccess]
    · simp [hdeleted, haccepts]

/-- It is known of each file that is taken whether it will be indexed when its change is taken
up. -/
def Foreseen (worker : Worker) (changes : List Change) (known : String → Bool) (w : Workspace) :
    Prop :=
  ∀ before change later, changes = before ++ change :: later →
    worker.accepts w.settings change.path = true →
    ({ w with index := w.changedIndex worker before }).succeeds change.path = known change.path

private theorem foldl_takeChange_eq (h : w.faults = {}) (tasks : List SummaryTask)
    {known : String → Bool} (hknown : w.Foreseen worker changes known) :
    changes.foldl (takeChange worker) (w, tasks) =
      ({ w with index := w.changedIndex worker changes },
        tasks ++ changes.filterMap (w.task? worker known)) := by
  induction changes generalizing w tasks with
  | nil => simp [changedIndex]
  | cons change rest ih =>
      have hhere : worker.accepts w.settings change.path = true →
          w.succeeds change.path = known change.path :=
        hknown [] change rest rfl
      have htask : w.task? worker w.succeeds change = w.task? worker known change := by
        unfold task?
        by_cases haccepts : worker.accepts w.settings change.path = true
        · rw [hhere haccepts]
        · simp [haccepts]
      rw [List.foldl_cons, takeChange_eq_of_faultless h, ih, htask]
      · refine Prod.ext rfl ?_
        rw [List.append_assoc, List.filterMap_cons]
        cases w.task? worker known change <;> rfl
      · exact h
      · intro before next later hsplit
        exact hknown (change :: before) next later (congrArg (change :: ·) hsplit)

/-- The index after changes, if it is known which of the files will be indexed. -/
theorem takeChanges_index_eq (h : w.faults = {}) {known : String → Bool}
    (hknown : w.Foreseen worker changes known) :
    (w.takeChanges worker changes).2.index =
      (w.changedIndex worker changes).summarizeFiles w.indexer
        (changes.filterMap (w.task? worker known)) := by
  rw [takeChanges_of_unrefused (unrefused_of_faultless h worker changes),
    foldl_takeChange_eq h [] hknown, List.nil_append]
  simp only
  split
  next hempty =>
    rw [List.isEmpty_iff.mp hempty]
    unfold Index.summarizeFiles
    split <;> rfl
  · exact summarizeFiles_index _ _

end Tasks

section Order

private theorem applyChange_local (w : Workspace) (hfaults : w.faults = {}) (worker : Worker) :
    Index.Local Change.path
      (Index.applyChange w.indexer w.files (worker.accepts w.settings)) :=
  Index.applyChange_local w.indexer_isLocal (indexer_faultless hfaults)

theorem changedIndex_owned (hfaults : w.faults = {}) (howned : w.index.Owned) (worker : Worker)
    (changes : List Change) : (w.changedIndex worker changes).Owned :=
  (w.applyChange_local hfaults worker).foldl_owned howned changes

/-- With one change for each file it is known from the start which of them succeed. -/
private theorem foreseen_of_distinct (hfaults : w.faults = {}) (howned : w.index.Owned)
    (hdistinct : (changes.map Change.path).Nodup) : w.Foreseen worker changes w.succeeds := by
  intro before change later hsplit _
  have hstep := w.applyChange_local hfaults worker
  have hother : ∀ earlier ∈ before, change.path ≠ earlier.path := by
    intro earlier member hsame
    rw [hsplit, List.map_append, List.map_cons] at hdistinct
    have hapart := (List.nodup_append.mp hdistinct).2.2
    exact hapart earlier.path (List.mem_map_of_mem member) change.path List.mem_cons_self hsame.symm
  have halike := hstep.foldl_alike_of_not_named howned hother
  have hboth := halike.indexFile howned (changedIndex_owned hfaults howned worker before)
    w.indexer_isLocal (indexer_faultless hfaults) w.files
  exact hboth.2

private theorem takeChanges_alike (hfaults : w.faults = {}) (howned : w.index.Owned)
    (hdistinct : (changes.map Change.path).Nodup) (hperm : changes.Perm others) (path : String) :
    Index.Alike path (w.takeChanges worker changes).2.index
      (w.takeChanges worker others).2.index := by
  have hlisted := insertion_of_faultless hfaults
  have hthere : (others.map Change.path).Nodup := (hperm.map Change.path).nodup_iff.mp hdistinct
  have hstep := w.applyChange_local hfaults worker
  rw [takeChanges_index_eq hfaults (foreseen_of_distinct hfaults howned hdistinct),
    takeChanges_index_eq hfaults (foreseen_of_distinct hfaults howned hthere)]
  refine Index.summarizeFiles_alike hlisted (changedIndex_owned hfaults howned worker changes)
    (changedIndex_owned hfaults howned worker others)
    (hstep.foldl_perm howned hdistinct hperm) ?_ (hperm.filterMap _) path
  -- The tasks name files of changes, each of which names its own.
  have hpaths : (changes.filterMap (w.task? worker w.succeeds)).map SummaryTask.path =
      (changes.filter fun change => (w.task? worker w.succeeds change).isSome).map Change.path := by
    clear hdistinct hperm
    induction changes with
    | nil => rfl
    | cons change rest ih =>
        cases htask : w.task? worker w.succeeds change with
        | none => simpa [htask] using ih
        | some task => simpa [htask, path_of_task? htask] using ih
  rw [hpaths]
  exact hdistinct.sublist (List.filter_sublist.map Change.path)

/-- Changes are taken up alike where the same files are found in another order. -/
private theorem takeChanges_files_eq (hfaults : w.faults = {}) (howned : w.index.Owned)
    {files : Files} (hfiles : ∀ path, files.entry path = w.files.entry path) (diff : Git.Answer)
    (hdistinct : (changes.map Change.path).Nodup) :
    (({ w with files, diff }).takeChanges worker changes).2.index =
      (w.takeChanges worker changes).2.index := by
  let other : Workspace := { w with files, diff }
  have htasks : other.task? worker other.succeeds = w.task? worker w.succeeds := by
    funext change
    have hsucceeds : other.succeeds change.path = w.succeeds change.path :=
      congrArg Outcome.success (Index.indexFile_congr hfiles change.path w.index)
    have hread : other.files.readText change.path = w.files.readText change.path :=
      Files.readText_congr (hfiles change.path)
    have hsummary : other.summaryTask? change.path = w.summaryTask? change.path := by
      simp only [summaryTask?, hread]
      rfl
    simp only [task?, hsucceeds, hsummary]
    rfl
  have hchanged : other.changedIndex worker changes = w.changedIndex worker changes :=
    congrArg (fun step => changes.foldl step w.index) (Index.applyChange_congr hfiles)
  have hother : other.faults = {} := hfaults
  rw [takeChanges_index_eq hother (foreseen_of_distinct hother howned hdistinct),
    takeChanges_index_eq hfaults (foreseen_of_distinct hfaults howned hdistinct), htasks, hchanged]
  rfl

/-- After any run, changes of different files can be taken up in any order without faults: every
file has the same records, chunks, symbols, relationships and summaries in the end, up to the
numbers of the rows. So the outcome of a cycle does not depend on the order in which a scan finds
the files, or a comparison gives the changes. -/
theorem outcome_does_not_depend_on_order (w : Workspace) (h : w.Reachable) (hfaults : w.faults = {})
    (worker : Worker) (changes others : List Change) (hdistinct : (changes.map Change.path).Nodup)
    (hperm : changes.Perm others) :
    (∀ path, (w.takeChanges worker others).2.index.view path =
      (w.takeChanges worker changes).2.index.view path) ∧
    ∀ (full : Bool) (files : Files) (diff : Git.Answer),
      (∀ path, files.entry path = w.files.entry path) →
      w.learned full worker = .ok changes →
      ({ w with files, diff }).learned full worker = .ok others →
      (({ w with files, diff }).cycle full worker).1 = (w.cycle full worker).1 ∧
      ∀ path, (({ w with files, diff }).cycle full worker).2.index.view path =
        (w.cycle full worker).2.index.view path := by
  have howned := h.owned
  have hthere : (others.map Change.path).Nodup := (hperm.map Change.path).nodup_iff.mp hdistinct
  refine ⟨fun path => (takeChanges_alike hfaults howned hdistinct hperm path).view, ?_⟩
  intro full files diff hfiles hlearned hother
  have hasked : (w.asked full worker).faults = {} := hfaults
  have hunlimited : w.faults.nameable = none := congrArg Faults.nameable hfaults
  have hresult : (({ w with files, diff }).cycle full worker).1 = (w.cycle full worker).1 := by
    have hhere := unrefusedCycle_of_unlimited full worker hunlimited
    have hthere := unrefusedCycle_of_unlimited (w := { w with files, diff }) full worker hunlimited
    rw [cycle_result_of_unrefused hlearned (hhere _ hlearned),
      cycle_result_of_unrefused hother (hthere _ hother)]
  refine ⟨hresult, ?_⟩
  intro path
  have halike : Index.Alike path ((w.asked full worker).takeChanges worker changes).2.index
      ((w.asked full worker).takeChanges worker others).2.index :=
    takeChanges_alike hasked howned hdistinct hperm path
  have hsame : ((({ w with files, diff }).asked full worker).takeChanges worker others).2.index =
      ((w.asked full worker).takeChanges worker others).2.index :=
    takeChanges_files_eq hasked howned hfiles diff hthere
  rw [cycle_index_of_learned hlearned, cycle_index_of_learned hother]
  exact (congrArg (Index.view path) hsame).trans halike.view

/-- A file that is indexed changes, and an unreadable one and another one are added. A scan in the
opposite order gives other numbers to the chunks, and the same for every file. -/
theorem opposite_scan_has_same_outcome :
    let first : Workspace :=
      { files := { contents := [("a.py", [120])] }, window := ⟨40, 10⟩, analyzer := none }
    let worker : Worker := { rules := none, suffixes := [".py"] }
    let files : Files := { contents := [("a.py", [121]), ("b.py", [255]), ("c.py", [120])] }
    let w : Workspace := { (first.cycle true worker).2 with files, faults := {} }
    let other : Workspace :=
      { w with files := { contents := files.contents.reverse }, diff := w.diff }
    let after := (w.cycle true worker).2.index
    let afterOther := (other.cycle true worker).2.index
    after.chunkStore.owners.rows = [(1, "a.py"), (2, "c.py")] ∧
      afterOther.chunkStore.owners.rows = [(2, "c.py"), (3, "a.py")] ∧
      (∀ path, afterOther.view path = after.view path) ∧
      ∀ path, (w.takeChanges worker
          [⟨"c.py", .added⟩, ⟨"b.py", .added⟩, ⟨"a.py", .added⟩]).2.index.view path =
        (w.takeChanges worker
          [⟨"a.py", .added⟩, ⟨"b.py", .added⟩, ⟨"c.py", .added⟩]).2.index.view path := by
  intro first worker files w other after afterOther
  have hfirst : first.Reachable := .empty rfl trivial
  have hreachable : w.Reachable := Reachable.surroundings (.cycle true worker hfirst) _ _
  have hfiles : ∀ path, other.files.entry path = w.files.entry path :=
    Files.entry_eq_of_perm (List.reverse_perm files.contents).symm (by decide) rfl
  obtain ⟨htake, hcycle⟩ := outcome_does_not_depend_on_order w hreachable rfl worker
    [⟨"a.py", .added⟩, ⟨"b.py", .added⟩, ⟨"c.py", .added⟩]
    [⟨"c.py", .added⟩, ⟨"b.py", .added⟩, ⟨"a.py", .added⟩] (by decide)
    (List.reverse_perm _).symm
  obtain ⟨-, hviews⟩ := hcycle true { contents := files.contents.reverse } w.diff hfiles rfl rfl
  refine ⟨by decide +kernel, by decide +kernel, ?_, htake⟩
  clear_value w
  exact hviews

end Order

end Workspace

end CodeIndex
