import CodeIndex.Proofs.Changes

/-!
Whether a file that could not be indexed is taken up again.

A failed attempt leaves a record of the failure and no trace in the worker, which remembers the
current commit at the end of the cycle all the same. What the next cycle hands on to be indexed
depends on its changes alone, unless a deletion fails and ends it. So the file is taken up again if
the next cycle scans all files or its comparison lists the file, and else it stays as the failure
left it, for any number of cycles.
-/

namespace CodeIndex

/-- The text of a file can be cut, and the table takes the chunks. -/
def Indexer.Stores (indexer : Indexer) (path : String) (content : List Char) : Prop :=
  ∃ chunks, Chunk.ofFile indexer.splitter path content = .ok chunks ∧
    ((∃ message, indexer.insertion = .fails message) → chunks = [])

namespace Index

def Unindexed (path : String) (idx : Index) : Prop :=
  ∀ r, idx.record? path = some r → r.status = .failed

variable {indexer : Indexer} {path : String} {content : List Char} {idx after : Index}

/-- Whether a text is stored depends on what the index holds only in that the old chunks have to be
erased. -/
theorem indexText_success_iff :
    (idx.indexText indexer path content).success = true ↔
      isNameable indexer.nameable (idx.chunkStore.idsOf path).length = true ∧
        indexer.Stores path content := by
  unfold indexText Indexer.Stores
  rcases chunkStore_start_cases indexer path idx with ⟨hfits, count, hdelete⟩ | ⟨hrows, hdelete⟩
  · simp only [hdelete, hfits, true_and]
    cases Chunk.ofFile indexer.splitter path content with
    | error failure => simp
    | ok chunks =>
        cases chunks with
        | nil => simp [ChunkStore.add]
        | cons first rest => cases indexer.insertion <;> simp [ChunkStore.add]
  · simp [hdelete, hrows]

private theorem WellFormed.indexText_success_iff (h : idx.WellFormed) :
    (idx.indexText indexer path content).success = true ↔
      isNameable indexer.nameable (idx.chunksOf path).length = true ∧
        indexer.Stores path content := by
  rw [Index.indexText_success_iff, h.store.length_idsOf]
  rfl

private theorem Unindexed.congr (h : idx.Unindexed path) (hsame : SameFile path idx after) :
    after.Unindexed path := by
  intro r hrecord
  rw [hsame.record] at hrecord
  exact h r hrecord

private theorem Unindexed.isCurrent (h : idx.Unindexed path) (digest : String) :
    idx.isCurrent path digest = false := by
  apply Bool.eq_false_iff.mpr
  intro hcurrent
  obtain ⟨r, hrecord, -, hstatus⟩ := isCurrent_eq_true_iff.mp hcurrent
  rw [h r hrecord] at hstatus
  cases hstatus

private theorem unindexed_eraseFile (path : String) (idx : Index) :
    (idx.eraseFile path).Unindexed path := by
  intro r hrecord
  rw [record?_eraseFile] at hrecord
  cases hrecord

/-- A failed attempt at a file that is there leaves a record of the failure. -/
private theorem Ending.unindexed {files : Files} (h : Ending indexer files path idx after false)
    (hpresent : files.exists? path = true ∨ idx.Unindexed path) : after.Unindexed path := by
  have hfailed {r : Record} (hrecord : after.record? path = some r) (hstatus : r.status = .failed) :
      after.Unindexed path := by
    intro other hother
    rw [hrecord] at hother
    cases hother
    exact hstatus
  cases h with
  | missing hexists hsame =>
      rw [hexists] at hpresent
      rw [hsame]
      exact hpresent.resolve_left Bool.false_ne_true
  | unreadable failure hread hrecord hchunks => exact hfailed hrecord rfl
  | failed content message hread hstale hfits hcause hrecord hchunks => exact hfailed hrecord rfl
  | refused content hread hstale hrows hrecord hchunks => exact hfailed hrecord rfl

/-- A failed attempt leaves the old chunks, unless they can be erased. -/
private theorem Ending.chunksOf_eq_or {files : Files}
    (h : Ending indexer files path idx after false) :
    after.chunksOf path = idx.chunksOf path ∨
      isNameable indexer.nameable (idx.chunksOf path).length = true := by
  cases h with
  | missing hexists hsame => exact Or.inl (by rw [hsame])
  | unreadable failure hread hrecord hchunks => exact Or.inl hchunks
  | failed content message hread hstale hfits hcause hrecord hchunks => exact Or.inr hfits
  | refused content hread hstale hrows hrecord hchunks => exact Or.inl hchunks

end Index

namespace Workspace

variable {w after : Workspace} {worker : Worker} {changes : List Change} {path : String}
  {state : Workspace × List SummaryTask}

section Attempts

/-- The attempts that are made while changes are taken up, in their order: each file that is handed
on to be indexed, with whether it was. There are none from a deletion on that fails. -/
def attemptsOf (worker : Worker) :
    List Change → Workspace × List SummaryTask → List (String × Bool)
  | [], _ => []
  | change :: rest, state =>
    match state.1.refusal? change with
    | some _ => []
    | none =>
      let later := attemptsOf worker rest (takeChange worker state change)
      if change.status ≠ .deleted ∧ worker.accepts state.1.settings change.path then
        (change.path, (state.1.indexFile change.path).1) :: later
      else later

def attempts (full : Bool) (worker : Worker) (w : Workspace) : List (String × Bool) :=
  match w.learned full worker with
  | .ok changes => attemptsOf worker changes (w.asked full worker, [])
  | .error _ => []

/-- Which files are handed on depends on the changes alone, not on what comes of the attempts. -/
private theorem map_fst_attemptsOf (hunrefused : (takeEach worker changes state).1 = none) :
    (attemptsOf worker changes state).map Prod.fst =
      (changes.filter fun change =>
        change.status ≠ .deleted ∧ worker.accepts state.1.settings change.path).map
          Change.path := by
  induction changes generalizing state with
  | nil => rfl
  | cons change rest ih =>
      obtain ⟨hfirst, hlater⟩ := takeEach_cons_eq_none_iff.mp hunrefused
      have hsettings := (takeChange_continues worker state change).settings
      have hrest := ih hlater
      rw [hsettings] at hrest
      unfold attemptsOf
      simp only [hfirst, List.filter_cons, decide_eq_true_eq]
      split
      · rw [List.map_cons, List.map_cons, hrest]
      · exact hrest

private theorem mem_attempts_iff {full : Bool} (hlearned : w.learned full worker = .ok changes)
    (hunrefused : (w.asked full worker).Unrefused worker changes) :
    (∃ success, (path, success) ∈ w.attempts full worker) ↔
      ∃ change ∈ changes, change.path = path ∧ change.status ≠ .deleted ∧
        worker.accepts w.settings path = true := by
  have hfst : (∃ success, (path, success) ∈ w.attempts full worker) ↔
      path ∈ (w.attempts full worker).map Prod.fst := by
    simp
  rw [hfst, attempts, hlearned]
  simp only [map_fst_attemptsOf hunrefused, List.mem_map, List.mem_filter, decide_eq_true_eq]
  constructor
  · rintro ⟨change, ⟨member, hkept, haccepts⟩, rfl⟩
    exact ⟨change, member, rfl, hkept, haccepts⟩
  · rintro ⟨change, member, rfl, hkept, haccepts⟩
    exact ⟨change, ⟨member, hkept, haccepts⟩, rfl⟩

end Attempts

section Failures

/-- The old chunks of a file cannot be erased, or whatever text it has, it cannot be cut or not be
stored. -/
def Hindered (path : String) (w : Workspace) : Prop :=
  isNameable w.faults.nameable (w.index.chunksOf path).length = true →
    ∀ content, w.files.readText path = .ok content → ¬w.indexer.Stores path content

/-- What stands in the way of a file stays, unless its old chunks are erased, and even then if they
could be before. -/
theorem Hindered.continues (h : w.Hindered path) (hcontinues : w.Continues after)
    (hchunks : after.index.chunksOf path = w.index.chunksOf path ∨
      isNameable w.faults.nameable (w.index.chunksOf path).length = true) :
    after.Hindered path := by
  have hinsertion : after.indexer.insertion = w.indexer.insertion := by
    simp only [indexer, insertion, hcontinues.faults]
  have hsplitter : after.indexer.splitter = w.indexer.splitter := by
    simp only [indexer, hcontinues.faults, hcontinues.splitter]
  intro hfits content hread hstores
  have hbefore : isNameable w.faults.nameable (w.index.chunksOf path).length = true := by
    rcases hchunks with hsame | herasable
    · rw [hcontinues.faults, hsame] at hfits
      exact hfits
    · exact herasable
  unfold Indexer.Stores at hstores
  rw [hinsertion, hsplitter] at hstores
  exact h hbefore content (hcontinues.texts path content hread) hstores

private theorem Orderly.hindered_of_indexFile (h : w.Orderly)
    (hfailed : (w.indexFile path).1 = false) :
    w.Hindered path := by
  intro hfits content hread hstores
  have hsuccess : (w.index.indexFile w.indexer w.files path).success = false := hfailed
  unfold Index.indexFile at hsuccess
  rw [if_pos (Files.exists?_of_readText hread), hread] at hsuccess
  simp only at hsuccess
  split at hsuccess
  · cases hsuccess
  · rw [h.wellFormed.indexText_success_iff.mpr ⟨hfits, hstores⟩] at hsuccess
    cases hsuccess

private theorem Orderly.indexFile_of_hindered (h : w.Orderly) (hhindered : w.Hindered path)
    (hunindexed : w.index.Unindexed path) : (w.indexFile path).1 = false := by
  change (w.index.indexFile w.indexer w.files path).success = false
  unfold Index.indexFile
  split
  · cases hread : w.files.readText path with
    | error failure => rfl
    | ok content =>
        simp only [hunindexed.isCurrent, Bool.false_eq_true, ↓reduceIte]
        apply Bool.eq_false_iff.mpr
        intro hsuccess
        obtain ⟨hfits, hstores⟩ := h.wellFormed.indexText_success_iff.mp hsuccess
        exact hhindered hfits content hread hstores
  · rfl

private theorem Orderly.ending_of_failed (h : w.Orderly) (hfailed : (w.indexFile path).1 = false) :
    Index.Ending w.indexer w.files path w.index (w.indexFile path).2.index false := by
  have hending := (h.wellFormed.indexFile h.lists.insertion_definite w.files path).ending
  have hsuccess : (w.index.indexFile w.indexer w.files path).success = false := hfailed
  rwa [hsuccess, ← indexFile_index] at hending

structure Stuck (path : String) (w : Workspace) : Prop where
  orderly : w.Orderly
  hindered : w.Hindered path
  unindexed : w.index.Unindexed path

/-- A failed attempt at a file that is there, or was not indexed before, leaves it stuck. -/
private theorem Orderly.stuck_of_indexFile (h : w.Orderly) (hfailed : (w.indexFile path).1 = false)
    (hpresent : w.files.exists? path = true ∨ w.index.Unindexed path)
    (horderly : (w.indexFile path).2.Orderly) : (w.indexFile path).2.Stuck path := by
  have hending := h.ending_of_failed hfailed
  exact ⟨horderly, (h.hindered_of_indexFile hfailed).continues (indexFile_continues path w)
    hending.chunksOf_eq_or, hending.unindexed hpresent⟩

private theorem Stuck.takeChange (h : state.1.Stuck path) (worker : Worker) (change : Change) :
    (takeChange worker state change).1.Stuck path := by
  have horderly := h.orderly.takeChange worker change
  by_cases hpath : path = change.path
  · -- Changes may name a file twice: another attempt at it fails for the same cause.
    subst hpath
    rcases takeChange_cases worker state change with ⟨-, heq⟩ | ⟨-, -, heq⟩ | ⟨-, -, heq⟩
    · rw [heq] at horderly ⊢
      rcases h.orderly.wellFormed.deleteFile_cases state.1.faults.nameable change.path with
        ⟨hfits, hdelete⟩ | ⟨-, hdelete⟩
      · have hindex : (state.1.deleteFile change.path).2.index =
            state.1.index.eraseFile change.path := by
          rw [deleteFile, hdelete]
        refine ⟨horderly, h.hindered.continues (deleteFile_continues _ _) (Or.inr hfits), ?_⟩
        rw [hindex]
        exact Index.unindexed_eraseFile change.path state.1.index
      · have hsame : (state.1.deleteFile change.path).2 = state.1 := by rw [deleteFile, hdelete]
        rwa [hsame]
    · rw [heq] at horderly ⊢
      have hfails := h.orderly.indexFile_of_hindered h.hindered h.unindexed
      exact h.orderly.stuck_of_indexFile hfails (Or.inr h.unindexed) horderly
    · rwa [heq]
  · have hsame := (h.orderly.takeChange_sameBut worker change).sameFile hpath
    exact ⟨horderly, h.hindered.continues (takeChange_continues worker state change)
      (Or.inl hsame.chunks), h.unindexed.congr hsame⟩

private theorem Stuck.takeEach (h : state.1.Stuck path) (worker : Worker)
    (changes : List Change) : (takeEach worker changes state).2.1.Stuck path := by
  obtain ⟨taken, -, hstate, -⟩ := takeEach_eq_foldl worker changes state
  rw [hstate]
  exact List.foldlRecOn (motive := fun last => last.1.Stuck path) taken
    (Workspace.takeChange worker) h fun _ hlast change _ => hlast.takeChange worker change

/-- A file that was handed on in vain while changes were taken up is stuck in the end, if it is
still there. -/
private theorem Orderly.stuck_of_attempt (h : state.1.Orderly)
    (hfailed : (path, false) ∈ attemptsOf worker changes state)
    (hexists : (takeEach worker changes state).2.1.files.exists? path = true) :
    (takeEach worker changes state).2.1.Stuck path := by
  induction changes generalizing state with
  | nil => cases hfailed
  | cons change rest ih =>
      -- No file is written within a cycle, so one that is there in the end is there now.
      have hpresent := (takeEach_continues worker (change :: rest) state).present path hexists
      have horderly := h.takeChange worker change
      unfold attemptsOf at hfailed
      cases hrefusal : state.1.refusal? change with
      | some failure =>
          rw [hrefusal] at hfailed
          cases hfailed
      | none =>
          rw [takeEach, hrefusal] at hexists ⊢
          simp only [hrefusal] at hfailed
          split at hfailed
          next htaken =>
            rcases List.mem_cons.mp hfailed with hhere | hlater
            · obtain ⟨rfl, hfalse⟩ := Prod.mk.inj hhere
              refine Stuck.takeEach ?_ worker rest
              rcases takeChange_cases worker state change with
                ⟨hdeleted, -⟩ | ⟨-, -, heq⟩ | ⟨-, hno, -⟩
              · exact absurd hdeleted htaken.1
              · rw [heq] at horderly ⊢
                exact h.stuck_of_indexFile hfalse.symm (Or.inl hpresent) horderly
              · rw [hno] at htaken
                cases htaken.2
            · exact ih horderly hlater hexists
          next => exact ih horderly hfailed hexists

/-- A file that a cycle has handed on in vain is not indexed after the cycle, also if a deletion
ends the cycle. -/
private theorem Orderly.cycle_unindexed (h : w.Orderly) {full : Bool}
    (hfailed : (path, false) ∈ w.attempts full worker)
    (hexists : (w.cycle full worker).2.files.exists? path = true) :
    (w.cycle full worker).2.index.Unindexed path := by
  let unindexed (after : Workspace) : Prop :=
    after.files.exists? path = true → after.index.Unindexed path
  refine cycle_of_takeEach (P := unindexed) ?_ (fun _ _ h => h) ?_ ?_ hexists
  · intro after tasks hafter hpresent
    have hbefore := hafter ((summarizeFiles_continues tasks after).present path hpresent)
    obtain ⟨summaries, summaryStore, heq⟩ :=
      Index.summarizeFiles_eq after.indexer tasks after.index
    rw [summarizeFiles_index, heq]
    exact hbefore
  · intro changes hlearned hpresent
    rw [attempts, hlearned] at hfailed
    exact (Orderly.stuck_of_attempt (h.asked full worker) hfailed hpresent).unindexed
  · intro failure hlearned
    rw [attempts, hlearned] at hfailed
    cases hfailed

end Failures

section Later

/-- Cycles one after the other, none of whose changes names a file. Between them all but the index
may change. -/
inductive Passes (path : String) (w : Workspace) : Workspace → Prop where
  | refl : Passes path w w
  | surroundings {after last : Workspace} (h : Passes path w after)
      (hindex : last.index = after.index) (hlists : last.Lists) : Passes path w last
  | cycle {after : Workspace} (h : Passes path w after) (full : Bool) (worker : Worker)
      (hother : ∀ changes, after.learned full worker = .ok changes →
        ∀ change ∈ changes, path ≠ change.path) : Passes path w (after.cycle full worker).2

/-- A file that no change names keeps its record and its chunks. -/
private theorem Passes.keeps (h : Passes path w after) (hreached : Reached Lists w) :
    Reached Lists after ∧ Index.SameFile path w.index after.index := by
  induction h with
  | refl => exact ⟨hreached, rfl, rfl⟩
  | surroundings _ hindex hlists ih =>
      rw [hindex]
      exact ⟨.surroundings ih.1 hindex hlists, ih.2⟩
  | cycle _ full worker hother ih =>
      exact ⟨.cycle full worker ih.1, ih.2.trans (ih.1.orderly.cycle_sameFile full worker hother)⟩

/-- An accepted file that is there is handed on by a cycle that scans the files, and else if the
comparison lists it as not deleted. -/
private theorem handed_on_iff {full : Bool} (hunrefused : w.UnrefusedCycle full worker)
    (hpath : path ∈ w.files.paths) (haccepts : worker.accepts w.settings path = true) :
    (∃ success, (path, success) ∈ w.attempts full worker) ↔
      Git.Scans (if full then none else worker.lastCommit) w.diff ∨
        ∃ changes, Git.changesOf w.diff.output.toList = .ok changes ∧
          ∃ change ∈ changes, change.path = path ∧ change.status ≠ .deleted := by
  by_cases hscans : Git.Scans (if full then none else worker.lastCommit) w.diff
  · have hlearned : w.learned full worker = .ok (w.files.paths.map fun path => ⟨path, .added⟩) :=
      hscans.changesSince w.files.paths
    have hchange : (⟨path, .added⟩ : Change) ∈ w.files.paths.map fun path => ⟨path, .added⟩ :=
      List.mem_map_of_mem hpath
    refine ⟨fun _ => Or.inl hscans, fun _ => ?_⟩
    refine (mem_attempts_iff hlearned (hunrefused _ hlearned)).mpr ?_
    exact ⟨_, hchange, rfl, by simp, haccepts⟩
  · have hlearned : w.learned full worker = Git.changesOf w.diff.output.toList :=
      Git.changesSince_of_not_scans hscans w.files.paths
    cases hchanges : Git.changesOf w.diff.output.toList with
    | error failure =>
        rw [hchanges] at hlearned
        simp [attempts, hlearned, hscans]
    | ok changes =>
        rw [hchanges] at hlearned
        simp [mem_attempts_iff hlearned (hunrefused _ hlearned), hscans, haccepts]

/-- After any run, let a cycle hand on a file in vain. Unless a deletion fails, the worker remembers
the current commit all the same. As long as no change names the file, it stays as the failure left
it, and not indexed, through any number of cycles. A later cycle, unless a deletion fails, hands it
on again exactly if it scans the files or its comparison lists the file. -/
theorem failed_file_is_handed_on_again_iff (w : Workspace) (h : Reached Lists w) (full : Bool)
    (worker : Worker) (path : String) (hfailed : (path, false) ∈ w.attempts full worker)
    (hexists : (w.cycle full worker).2.files.exists? path = true) (later : Workspace)
    (hlater : Passes path (w.cycle full worker).2 later) (fullNext : Bool) (next : Worker)
    (hpath : path ∈ later.files.paths) (haccepts : next.accepts later.settings path = true) :
    (w.UnrefusedCycle full worker →
      (w.cycle full worker).1 = .ok { worker with lastCommit := Git.currentCommit w.head }) ∧
    Index.SameFile path (w.cycle full worker).2.index later.index ∧
    later.index.Unindexed path ∧
    (later.UnrefusedCycle fullNext next →
      ((∃ success, (path, success) ∈ later.attempts fullNext next) ↔
        Git.Scans (if fullNext then none else next.lastCommit) later.diff ∨
          ∃ changes, Git.changesOf later.diff.output.toList = .ok changes ∧
            ∃ change ∈ changes, change.path = path ∧ change.status ≠ .deleted)) := by
  cases hlearned : w.learned full worker with
  | error failure =>
      rw [attempts, hlearned] at hfailed
      cases hfailed
  | ok changes =>
      obtain ⟨-, hsame⟩ := hlater.keeps (.cycle full worker h)
      have hunindexed := h.orderly.cycle_unindexed hfailed hexists
      refine ⟨?_, hsame, hunindexed.congr hsame, fun hnext => handed_on_iff hnext hpath haccepts⟩
      intro hunrefused
      exact cycle_result_of_unrefused hlearned (hunrefused changes hlearned)

/-- A file cannot be stored, and the next comparison fails: the scan in its place hands the file on
again, and it is indexed. -/
theorem failed_file_is_handed_on_by_scan :
    let w : Workspace :=
      { files := { contents := [("a.py", [120])] }
        window := ⟨40, 10⟩
        analyzer := none
        summarizes := false
        faults := { insert := some "full" }
        head := { output := "c" } }
    let worker : Worker := { rules := none, suffixes := [".py"] }
    let next : Worker := { worker with lastCommit := some "c" }
    let later : Workspace :=
      { (w.cycle true worker).2 with faults := {}, diff := { code := 128 } }
    ("a.py", false) ∈ w.attempts true worker ∧
      (∃ success, ("a.py", success) ∈ later.attempts false next) ∧
      ((later.cycle false next).2.index.chunksOf "a.py").map Chunk.content = ["x"] := by
  intro w worker next later
  have hreached : Reached Lists w := .empty rfl rfl
  have hfailed : ("a.py", false) ∈ w.attempts true worker := by decide +kernel
  have hpasses : Passes "a.py" (w.cycle true worker).2 later := .surroundings .refl rfl rfl
  have hscans : Git.Scans next.lastCommit later.diff := Or.inr (by decide)
  obtain ⟨-, -, -, hagain⟩ := failed_file_is_handed_on_again_iff w hreached true worker "a.py"
    hfailed (by decide +kernel) later hpasses false next (by decide +kernel) (by decide +kernel)
  have hhanded := hagain (unrefusedCycle_of_unlimited _ _ rfl)
  exact ⟨hfailed, hhanded.mpr (Or.inl hscans), by decide +kernel⟩

/-- A file cannot be stored. The next comparison lists no change, so the file is not handed on
again, though it is there and accepted, and nothing stands in the way any more. -/
theorem failed_file_is_not_handed_on_again :
    let w : Workspace :=
      { files := { contents := [("a.py", [120])] }
        window := ⟨40, 10⟩
        analyzer := none
        summarizes := false
        faults := { insert := some "full" }
        head := { output := "c" } }
    let worker : Worker := { rules := none, suffixes := [".py"] }
    let next : Worker := { worker with lastCommit := some "c" }
    let later : Workspace := { (w.cycle true worker).2 with faults := {} }
    (w.cycle true worker).1.toOption = some next ∧
      w.attempts true worker = [("a.py", false)] ∧
      later.files.paths = ["a.py"] ∧ next.accepts later.settings "a.py" = true ∧
      later.attempts false next = [] ∧
      (later.cycle false next).2.index.records.values.map (fun r => (r.path, r.status)) =
        [("a.py", .failed)] := by
  decide +kernel

end Later

end Workspace

end CodeIndex
