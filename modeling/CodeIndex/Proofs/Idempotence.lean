import CodeIndex.Proofs.Order
import CodeIndex.Proofs.SummaryTotal

/-!
A full cycle without faults, run once more, changes nothing.

After an attempt to index a file the index is `Steady` in it: another attempt ends in the same way
and leaves every row as it is, whether the text is current, cannot be read or cannot be cut.
Attempts for other files do not disturb that, so the second scan finds all files steady. Its
summaries are made again, and their texts are erased and put in again, maybe with other numbers.
There the second time is `Alike` the first.
-/

namespace CodeIndex

namespace Index

section Failures

variable {path message : String} {idx : Index}

def FailedWith (path message : String) (idx : Index) : Prop :=
  idx.recordsOf path ≠ [] ∧
    ∀ r ∈ idx.recordsOf path, r.status = .failed ∧ r.error = some message

private theorem failedWith_fail (path message : String) (idx : Index) :
    (idx.fail path message).FailedWith path message := by
  have hrecords : (idx.fail path message).recordsOf path = _ :=
    recordsOf_updateRecord idx path _ fun _ => rfl
  unfold FailedWith
  rw [hrecords]
  split
  · simp
  next hsome => simpa using hsome

private theorem FailedWith.isCurrent (h : idx.FailedWith path message) (digest : String) :
    idx.isCurrent path digest = false := by
  apply Bool.eq_false_iff.mpr
  intro hcurrent
  obtain ⟨r, hrecord, -, hcompleted⟩ := isCurrent_eq_true_iff.mp hcurrent
  rw [record?_eq_head?] at hrecord
  have hfailed := (h.2 r (List.mem_of_mem_head? hrecord)).1
  rw [hcompleted] at hfailed
  cases hfailed

/-- Where a file has a record, its records are changed in place. -/
private theorem updateRecord_of_recorded (h : idx.recordsOf path ≠ []) (f : Record → Record) :
    idx.updateRecord path f =
      { idx with records := idx.records.updateWhere (fun r => r.path == path) f } := by
  have hrecord : idx.record? path ≠ none := by
    rw [record?_eq_head?]
    exact fun hnone => h (List.head?_eq_none_iff.mp hnone)
  unfold updateRecord
  cases hsome : idx.record? path with
  | none => exact absurd hsome hrecord
  | some r => rfl

private theorem updateRecord_eq_self (h : idx.recordsOf path ≠ []) {f : Record → Record}
    (hsame : ∀ r ∈ idx.recordsOf path, f r = r) : idx.updateRecord path f = idx := by
  rw [updateRecord_of_recorded h, Table.updateWhere_eq_self _ _ _ hsame]

private theorem updateRecord_updateRecord (h : idx.recordsOf path ≠ []) (f g : Record → Record)
    (hpath : ∀ r, (f r).path = r.path) :
    (idx.updateRecord path f).updateRecord path g = idx.updateRecord path (g ∘ f) := by
  have hfirst : (idx.updateRecord path f).recordsOf path ≠ [] := by
    rw [recordsOf_updateRecord idx path f hpath, if_neg (by simpa using h)]
    simpa using h
  rw [updateRecord_of_recorded hfirst, updateRecord_of_recorded h, updateRecord_of_recorded h]
  simp only
  rw [Table.updateWhere_updateWhere]
  intro r hr
  rwa [hpath]

private theorem FailedWith.fail (h : idx.FailedWith path message) :
    idx.fail path message = idx := by
  refine updateRecord_eq_self h.1 ?_
  intro r member
  obtain ⟨hstatus, herror⟩ := h.2 r member
  rw [← hstatus, ← herror]

/-- A failure after the chunks were erased, of a file that had failed in the same way and had no
chunks. -/
private theorem FailedWith.fail_cleared (h : idx.FailedWith path message)
    (hchunks : path ∉ idx.chunkStore.owners.values) :
    (idx.cleared path).fail path message = idx := by
  have hcleared : idx.cleared path = idx.start path := by
    have hstart : (idx.start path).chunkStore = idx.chunkStore := updateRecord_chunkStore idx path _
    rw [Index.cleared, hstart, ChunkStore.eraseFile_eq_self hchunks, ← hstart]
  rw [hcleared, Index.start, Index.fail, updateRecord_updateRecord h.1]
  · refine updateRecord_eq_self h.1 ?_
    intro r member
    obtain ⟨hstatus, herror⟩ := h.2 r member
    rw [Function.comp_apply, ← hstatus, ← herror]
  · exact fun _ => rfl

end Failures

section Attempts

variable {indexer : Indexer} {files : Files} {path : String} {idx after : Index} {success : Bool}

/-- The index is as an attempt to index a file leaves it. -/
inductive Steady (indexer : Indexer) (files : Files) (path : String) (idx : Index) :
    Bool → Prop where
  | missing (hexists : files.exists? path = false) : Steady indexer files path idx false
  | unreadable {failure : ReadFailure} (hexists : files.exists? path = true)
      (hread : files.readText path = .error failure)
      (hfailed : idx.FailedWith path failure.message) : Steady indexer files path idx false
  | current {content : List Char} (hread : files.readText path = .ok content)
      (hcurrent : idx.isCurrent path (textDigest content) = true) :
      Steady indexer files path idx true
  | uncut {content : List Char} {failure : CutFailure} (hread : files.readText path = .ok content)
      (hcut : Chunk.ofFile indexer.splitter path content = .error failure)
      (hfailed : idx.FailedWith path failure.message)
      (hchunks : path ∉ idx.chunkStore.owners.values) : Steady indexer files path idx false

/-- Another attempt changes nothing. -/
theorem Steady.indexFile (h : Steady indexer files path idx success) :
    idx.indexFile indexer files path = ⟨idx, success, false⟩ := by
  unfold Index.indexFile
  cases h with
  | missing hexists => rw [hexists]; rfl
  | unreadable hexists hread hfailed =>
      rw [if_pos hexists, hread]
      simp only [hfailed.fail]
  | current hread hcurrent =>
      rw [if_pos (Files.exists?_of_readText hread), hread]
      simp only [hcurrent, ↓reduceIte]
  | uncut hread hcut hfailed hchunks =>
      rw [if_pos (Files.exists?_of_readText hread), hread]
      have hfits := ChunkStore.isNameable_of_not_owned hchunks indexer.nameable
      simp only [hfailed.isCurrent, Bool.false_eq_true, ↓reduceIte, indexText_of_not_cut hfits hcut,
        hfailed.fail_cleared hchunks]

private theorem isCurrent_complete (path digest : String) (chunkCount : Nat) (idx : Index) :
    (idx.complete path digest chunkCount).isCurrent path digest = true := by
  let finish : Record → Record := fun r =>
    { r with digest, status := .completed, chunkCount, error := none, indexed := true }
  have hrecords : (idx.complete path digest chunkCount).recordsOf path =
      if (idx.recordsOf path).isEmpty then [finish { path }] else (idx.recordsOf path).map finish :=
    recordsOf_updateRecord idx path finish fun _ => rfl
  apply isCurrent_eq_true_iff.mpr
  rw [record?_eq_head?, hrecords]
  cases idx.recordsOf path with
  | nil => exact ⟨finish { path }, rfl, rfl, rfl⟩
  | cons r rest => exact ⟨finish r, rfl, rfl, rfl⟩

private theorem indexText_steady (hfaultless : indexer.IsFaultless) {content : List Char}
    (hread : files.readText path = .ok content) (idx : Index) :
    Steady indexer files path (idx.indexText indexer path content).index
      (idx.indexText indexer path content).success := by
  cases hcut : Chunk.ofFile indexer.splitter path content with
  | error failure =>
      rw [indexText_of_not_cut (hfaultless.isNameable _) hcut]
      have hchunks :
          path ∉ ((idx.cleared path).fail path failure.message).chunkStore.owners.values := by
        rw [Index.fail, updateRecord_chunkStore]
        simp [Index.cleared, ChunkStore.eraseFile, Table.values_eraseWhere]
      exact .uncut hread hcut (failedWith_fail path failure.message _) hchunks
  | ok chunks =>
      rw [indexText_of_cut hfaultless.listed (hfaultless.isNameable _) hcut]
      refine .current hread ?_
      have hcurrent := isCurrent_complete path (textDigest content) chunks.length
        ((idx.cleared path).stocked path chunks)
      unfold Index.isCurrent at hcurrent ⊢
      rwa [record?_analyze]

/-- Every attempt leaves the index steady in its file. -/
private theorem indexFile_steady (hfaultless : indexer.IsFaultless) (files : Files) (path : String)
    (idx : Index) :
    Steady indexer files path (idx.indexFile indexer files path).index
      (idx.indexFile indexer files path).success := by
  unfold Index.indexFile
  cases hexists : files.exists? path with
  | false => exact .missing hexists
  | true =>
      cases hread : files.readText path with
      | error failure => exact .unreadable hexists hread (failedWith_fail path failure.message idx)
      | ok content =>
          cases hcurrent : idx.isCurrent path (textDigest content) with
          | true =>
              simp only [hcurrent, ↓reduceIte]
              exact .current hread hcurrent
          | false =>
              simp only [hcurrent, Bool.false_eq_true, ↓reduceIte]
              exact indexText_steady hfaultless hread idx

private theorem Steady.congr (h : Steady indexer files path idx success)
    (hrecords : after.recordsOf path = idx.recordsOf path)
    (howners : path ∈ after.chunkStore.owners.values → path ∈ idx.chunkStore.owners.values) :
    Steady indexer files path after success := by
  have hfailed {message : String} (h : idx.FailedWith path message) :
      after.FailedWith path message := by
    unfold FailedWith
    rwa [hrecords]
  cases h with
  | missing hexists => exact .missing hexists
  | unreadable hexists hread hbefore => exact .unreadable hexists hread (hfailed hbefore)
  | current hread hcurrent =>
      refine .current hread ?_
      unfold Index.isCurrent at hcurrent ⊢
      rwa [record?_eq_head?, hrecords, ← record?_eq_head?]
  | uncut hread hcut hbefore hchunks =>
      exact .uncut hread hcut (hfailed hbefore) fun member => hchunks (howners member)

/-- A step about another file does not disturb it. -/
theorem Steady.confined {changed : String} (h : Steady indexer files path idx success)
    (hstep : Confined changed idx after) (hne : path ≠ changed) :
    Steady indexer files path after success := by
  refine h.congr (hstep.alike hne).recordsOf ?_
  intro member
  have hrows : after.chunkStore.owners.rowsWhere (· == path) =
      idx.chunkStore.owners.rowsWhere (· == path) :=
    congrArg FileRows.chunkOwners (hstep.rowsOf_eq hne)
  have hfound : path ∈ after.chunkStore.owners.values.filter (· == path) :=
    List.mem_filter.mpr ⟨member, beq_self_eq_true path⟩
  rw [← Table.map_snd_rowsWhere, hrows, Table.map_snd_rowsWhere] at hfound
  exact (List.mem_filter.mp hfound).1

end Attempts

section Changes

variable {indexer : Indexer} {files : Files} {accepts : String → Bool} {path : String}
  {idx : Index} {changes : List Change} {success : Bool}

/-- No change of a scan undoes what an attempt has left. -/
theorem Steady.applyChange (h : Steady indexer files path idx success) (howned : idx.Owned)
    (hlocal : indexer.IsLocal) {change : Change} (hkept : change.status ≠ .deleted) :
    Steady indexer files path (idx.applyChange indexer files accepts change) success := by
  unfold Index.applyChange
  rw [if_neg hkept]
  split
  · by_cases hpath : path = change.path
    · subst hpath
      rw [h.indexFile]
      exact h
    · exact h.confined (howned.indexFile hlocal files change.path) hpath
  · exact h

/-- After a scan the index is steady in every file that was taken, with the success that the
attempt for it had. -/
private theorem foldl_applyChange_steady (howned : idx.Owned) (hlocal : indexer.IsLocal)
    (hfaultless : indexer.IsFaultless) (hkept : ∀ change ∈ changes, change.status ≠ .deleted)
    {before later : List Change} {change : Change} (hsplit : changes = before ++ change :: later)
    (haccepts : accepts change.path = true) :
    Steady indexer files change.path (changes.foldl (Index.applyChange indexer files accepts) idx)
      ((before.foldl (Index.applyChange indexer files accepts) idx).indexFile indexer files
        change.path).success := by
  have hstep : Local Change.path (Index.applyChange indexer files accepts) :=
    applyChange_local hlocal hfaultless
  subst hsplit
  rw [List.foldl_append, List.foldl_cons]
  generalize hprior : before.foldl (Index.applyChange indexer files accepts) idx = prior
  have hprior : prior.Owned := hprior ▸ hstep.foldl_owned howned before
  have hattempt : prior.applyChange indexer files accepts change =
      (prior.indexFile indexer files change.path).index := by
    rw [Index.applyChange, if_neg (hkept change (by simp)), if_pos haccepts]
  let kept (last : Index) : Prop :=
    last.Owned ∧ Steady indexer files change.path last
      (prior.indexFile indexer files change.path).success
  have hstart : kept (prior.applyChange indexer files accepts change) := by
    refine ⟨(hstep.confined hprior change).owned, ?_⟩
    rw [hattempt]
    exact indexFile_steady hfaultless files change.path prior
  refine (List.foldlRecOn (motive := kept) later (Index.applyChange indexer files accepts)
    hstart ?_).2
  intro last hlast next member
  exact ⟨(hstep.confined hlast.1 next).owned,
    hlast.2.applyChange hlast.1 hlocal (hkept next (by simp [member]))⟩

private theorem foldl_applyChange_eq_self (hkept : ∀ change ∈ changes, change.status ≠ .deleted)
    (hsteady : ∀ change ∈ changes, accepts change.path = true →
      ∃ success, Steady indexer files change.path idx success) :
    changes.foldl (Index.applyChange indexer files accepts) idx = idx := by
  refine List.foldlRecOn (motive := fun last => last = idx) changes
    (Index.applyChange indexer files accepts) rfl ?_
  rintro last rfl change member
  rw [Index.applyChange, if_neg (hkept change member)]
  split
  next haccepts =>
    obtain ⟨success, h⟩ := hsteady change member haccepts
    rw [h.indexFile]
  · rfl

end Changes

section Again

variable {κ : Type} {key : κ → String} {first second : Index → κ → Index} {items : List κ}
  {item : κ} {path : String} {idx other : Index}

/-- Two indices that a step makes alike in its file stay so, whatever is done to other files. -/
private theorem Local.foldl_alike_of_step_alike (h : Local key second) (member : item ∈ items)
    (hsame : ∀ other ∈ items, key other = key item → other = item) (howned : idx.Owned)
    (hother : other.Owned) (halike : Alike (key item) (second idx item) (second other item)) :
    Alike (key item) (items.foldl second idx) (items.foldl second other) := by
  induction items generalizing idx other with
  | nil => cases member
  | cons next rest ih =>
      have hidx := h.confined howned next
      have hafter := h.confined hother next
      by_cases hkey : key next = key item
      · obtain rfl := hsame next List.mem_cons_self hkey
        exact h.foldl_alike rest hidx.owned hafter.owned halike
      · have hrest : item ∈ rest :=
          (List.mem_cons.mp member).resolve_left fun heq => hkey (congrArg key heq.symm)
        have hleft := h.alike item howned hidx.owned (hidx.alike (Ne.symm hkey))
        have hright := h.alike item hother hafter.owned (hafter.alike (Ne.symm hkey))
        exact ih hrest (fun later hlater => hsame later (List.mem_cons_of_mem _ hlater)) hidx.owned
          hafter.owned (hleft.symm.trans (halike.trans hright))

/-- Steps that leave nothing of other steps for the same file leave nothing of a series of these. -/
private theorem Local.foldl_over (hfirst : Local key first) (hsecond : Local key second)
    (hover : ∀ {idx : Index} (item : κ), idx.Owned →
      Alike (key item) (second idx item) (second (first idx item) item))
    (hsame : ∀ item ∈ items, ∀ other ∈ items, key other = key item → other = item)
    (howned : idx.Owned) (path : String) :
    Alike path (items.foldl second idx) (items.foldl second (items.foldl first idx)) := by
  have hstart := hfirst.foldl_owned howned items
  by_cases hpath : ∃ item ∈ items, key item = path
  · obtain ⟨item, member, rfl⟩ := hpath
    -- What the first steps do to the file is undone by the second step for it.
    let undone (last : Index) : Prop :=
      last.Owned ∧ Alike (key item) (second idx item) (second last item)
    have hundone : undone (items.foldl first idx) := by
      refine List.foldlRecOn (motive := undone) items first ⟨howned, .refl _ _⟩ ?_
      intro last hlast next hnext
      have hconfined := hfirst.confined hlast.1 next
      refine ⟨hconfined.owned, hlast.2.trans ?_⟩
      by_cases hkey : key next = key item
      · rw [hsame item member next hnext hkey]
        exact hover item hlast.1
      · exact hsecond.alike item hlast.1 hconfined.owned (hconfined.alike (Ne.symm hkey))
    exact hsecond.foldl_alike_of_step_alike member (hsame item member) howned hstart hundone.2
  · have hleft : ∀ item ∈ items, path ≠ key item :=
      fun item member heq => hpath ⟨item, member, heq.symm⟩
    exact hsecond.foldl_alike items howned hstart (hfirst.foldl_alike_of_not_named howned hleft)

end Again

section Summaries

variable {indexer : Indexer} {path text : String} {language : Option String} {lineCount : Int}
  {idx : Index}

/-- A summary takes the place of the one before it. -/
private theorem putSummary_over (path text : String) (language : Option String) (lineCount : Int)
    (idx : Index) (other : String) :
    Alike path (idx.putSummary path text language lineCount)
      ((idx.putSummary path other language lineCount).putSummary path text language
        lineCount) := by
  have hsummaries :
      ((idx.putSummary path other language lineCount).putSummary path text language
        lineCount).summariesOf path =
      (idx.putSummary path text language lineCount).summariesOf path := by
    rw [summariesOf_putSummary, summariesOf_putSummary, summariesOf_putSummary]
    cases idx.summariesOf path with
    | nil => rfl
    | cons first rest => simp
  obtain ⟨_, honce⟩ := putSummary_eq path other language lineCount idx
  obtain ⟨_, htwice⟩ := putSummary_eq path text language lineCount
    (idx.putSummary path other language lineCount)
  obtain ⟨_, hdirect⟩ := putSummary_eq path text language lineCount idx
  rw [htwice, honce, hdirect] at hsummaries ⊢
  refine ⟨?_, rfl, rfl⟩
  simp only [Index.view, FileView.mk.injEq]
  exact ⟨rfl, hsummaries, rfl, rfl, rfl⟩

private theorem Owned.retold (h : idx.Owned) (path text : String) : (idx.retold path text).Owned :=
  ⟨h.chunks, (h.summaries.add .listed path text).owned⟩

private theorem Owned.retold_over (h : idx.Owned) (path text other : String) :
    Alike path (idx.retold path text) ((idx.retold path other).retold path text) := by
  obtain ⟨htexts, hstrays⟩ := h.textsOf_retold path text
  obtain ⟨-, hstraysOther⟩ := h.textsOf_retold path other
  obtain ⟨htextsAgain, hstraysAgain⟩ := (h.retold path other).textsOf_retold path text
  refine ⟨?_, rfl, ?_⟩
  · simp only [Index.view, FileView.mk.injEq]
    refine ⟨rfl, rfl, rfl, rfl, ?_⟩
    rw [htexts, htextsAgain, hstraysOther]
  · rw [hstrays, hstraysAgain, hstraysOther]

/-- The two tables of summaries do not know of each other. -/
private theorem putSummary_retold (idx : Index) (other : String) :
    (idx.retold path other).putSummary path text language lineCount =
      (idx.putSummary path text language lineCount).retold path other := by
  unfold putSummary retold
  simp only
  split <;> rfl

/-- A file is summarized in whatever order its imports are, or in none. -/
private theorem summarizeFile_cases_of_order (hlisted : indexer.insertion = .listed)
    (order : Summary.SetOrder) (task : SummaryTask) :
    (∀ idx : Index, idx.summarizeFile indexer task = idx) ∨
    ∃ text other, ∀ idx : Index,
      (idx.summarizeFile indexer task =
        let put := idx.putSummary task.path other task.language (Text.lines task.content).length
        if indexer.summarizes then put.retold task.path other else put) ∧
      idx.summarizeFile { indexer with order } task =
        let put := idx.putSummary task.path text task.language (Text.lines task.content).length
        if indexer.summarizes then put.retold task.path text else put := by
  unfold summarizeFile
  cases hother : Summary.ofFile indexer.order task.content task.language with
  | error failure => exact Or.inl fun _ => rfl
  | ok other =>
      obtain ⟨text, htext⟩ := Summary.exists_ofFile_of_order hother order
      simp only [htext, storeSummary, hlisted]
      split
      · exact Or.inr ⟨text, other, fun _ => ⟨rfl, rfl⟩⟩
      · exact Or.inl fun _ => rfl

private theorem summarizeFile_over (hlisted : indexer.insertion = .listed)
    (order : Summary.SetOrder) (task : SummaryTask) (howned : idx.Owned) :
    Alike task.path (idx.summarizeFile { indexer with order } task)
      ((idx.summarizeFile indexer task).summarizeFile { indexer with order } task) := by
  rcases summarizeFile_cases_of_order hlisted order task with hnone | ⟨text, other, hput⟩
  · rw [hnone]
    exact .refl task.path _
  · rw [(hput _).2, (hput _).2, (hput _).1]
    have hover := putSummary_over task.path text task.language (Text.lines task.content).length idx
      other
    have hdirect := (howned.putSummary task.path text task.language
      (Text.lines task.content).length).owned
    have honce := (howned.putSummary task.path other task.language
      (Text.lines task.content).length).owned
    have htwice := (honce.putSummary task.path text task.language
      (Text.lines task.content).length).owned
    cases indexer.summarizes with
    | false => exact hover
    | true =>
        simp only [↓reduceIte, putSummary_retold]
        exact (hover.retold hdirect htwice text).trans (htwice.retold_over task.path text other)

/-- Summaries that depend on the files alone can be made again, also in another order. -/
private theorem summarizeFiles_over (hlisted : indexer.insertion = .listed)
    (order : Summary.SetOrder) {tasks : List SummaryTask}
    (hsame : ∀ task ∈ tasks, ∀ other ∈ tasks, other.path = task.path → other = task)
    (howned : idx.Owned) (path : String) :
    Alike path (idx.summarizeFiles { indexer with order } tasks)
      ((idx.summarizeFiles indexer tasks).summarizeFiles { indexer with order } tasks) := by
  have hover {idx : Index} (task : SummaryTask) (h : idx.Owned) :
      Alike task.path (idx.summarizeFile { indexer with order } task)
        ((idx.summarizeFile indexer task).summarizeFile { indexer with order } task) :=
    summarizeFile_over hlisted order task h
  have hfirst : Local SummaryTask.path (summarizeFile indexer) := summarizeFile_local hlisted
  have hsecond : Local SummaryTask.path (summarizeFile { indexer with order }) :=
    summarizeFile_local hlisted
  unfold summarizeFiles
  split
  · exact hfirst.foldl_over hsecond hover hsame howned path
  · exact .refl path idx

end Summaries

end Index

namespace Workspace

variable {w : Workspace} {worker : Worker} {changes : List Change} {known : String → Bool}

/-- The workspace when the program is started anew: sets may be listed in another order. -/
def restarted (order : Summary.SetOrder) (w : Workspace) : Workspace :=
  { w with order }

private theorem summarizeFiles_of_faultless (h : w.faults = {}) (tasks : List SummaryTask) :
    w.summarizeFiles tasks = { w with index := w.index.summarizeFiles w.indexer tasks } := by
  unfold summarizeFiles
  simp only
  split
  · let summarized : Workspace := { w with index := w.index.summarizeFiles w.indexer tasks }
    have hfaults : summarized.faults = {} := h
    refine List.foldlRecOn (motive := fun last => last = summarized) tasks _ rfl ?_
    rintro last rfl task _
    split
    · exact stored_of_faultless hfaults task.path
    · rfl
  · rfl

/-- Changes without faults concern nothing but the index. -/
private theorem takeChanges_eq_of_faultless (h : w.faults = {}) (worker : Worker)
    (changes : List Change) :
    w.takeChanges worker changes =
      (none, { w with index := (w.takeChanges worker changes).2.index }) := by
  have hfold := foldl_takeChange_of_faultless h worker changes []
  rw [takeChanges_of_unrefused (unrefused_of_faultless h worker changes)]
  cases hstate : changes.foldl (takeChange worker) (w, []) with
  | mk last tasks =>
      have hlast : last = { w with index := w.changedIndex worker changes } := by
        rw [← hfold, hstate]
      have hfaults : last.faults = {} := by
        rw [hlast]
        exact h
      simp only
      split
      · rw [hlast]
      · rw [summarizeFiles_of_faultless hfaults, hlast]

/-- Which commit the worker remembers does not matter for the changes. -/
private theorem takeChanges_of_lastCommit (worker : Worker) (lastCommit : Option String)
    (changes : List Change) (w : Workspace) :
    w.takeChanges { worker with lastCommit } changes = w.takeChanges worker changes := by
  have heach (state : Workspace × List SummaryTask) :
      takeEach { worker with lastCommit } changes state = takeEach worker changes state := by
    induction changes generalizing state with
    | nil => rfl
    | cons change rest ih =>
        rw [takeEach, takeEach, ih]
        rfl
  rw [takeChanges, heach, takeChanges]

private theorem task_eq_of_path_eq {task other : SummaryTask}
    (htask : task ∈ changes.filterMap (w.task? worker known))
    (hother : other ∈ changes.filterMap (w.task? worker known)) (hpath : other.path = task.path) :
    other = task := by
  have hsome {task : SummaryTask} (h : task ∈ changes.filterMap (w.task? worker known)) :
      w.summaryTask? task.path = some task := by
    obtain ⟨change, -, hchange⟩ := List.mem_filterMap.mp h
    have hsame := path_of_task? hchange
    unfold task? at hchange
    split at hchange
    · rwa [hsame]
    · cases hchange
  have hboth := hsome hother
  rw [hpath, hsome htask] at hboth
  exact (Option.some.inj hboth).symm

section Scan

variable (hfaults : w.faults = {}) (howned : w.index.Owned)
  (hkept : ∀ change ∈ changes, change.status ≠ .deleted)

include hfaults howned hkept

private theorem changedIndex_steady {before later : List Change} {change : Change}
    (hsplit : changes = before ++ change :: later)
    (haccepts : worker.accepts w.settings change.path = true) :
    Index.Steady w.indexer w.files change.path (w.changedIndex worker changes)
      (({ w with index := w.changedIndex worker before }).succeeds change.path) :=
  Index.foldl_applyChange_steady howned w.indexer_isLocal (indexer_faultless hfaults) hkept
    hsplit haccepts

/-- What becomes of the files in a scan can be told at its end, since another attempt would end in
the same way. -/
private theorem foreseen_of_scan (worker : Worker) :
    w.Foreseen worker changes ({ w with index := w.changedIndex worker changes }).succeeds := by
  intro before change later hsplit haccepts
  have hsteady := changedIndex_steady hfaults howned hkept hsplit haccepts
  have hsuccess := congrArg Outcome.success hsteady.indexFile
  exact hsuccess.symm

/-- Summaries concern neither the records nor the chunks, so all files are steady after them. -/
private theorem takeChanges_steady {change : Change} (member : change ∈ changes)
    (haccepts : worker.accepts w.settings change.path = true) :
    Index.Steady w.indexer w.files change.path (w.takeChanges worker changes).2.index
      (({ w with index := w.changedIndex worker changes }).succeeds change.path) := by
  have hforeseen := foreseen_of_scan hfaults howned hkept worker
  obtain ⟨before, later, hsplit⟩ := List.append_of_mem member
  have hsteady := changedIndex_steady hfaults howned hkept hsplit haccepts
  rw [hforeseen before change later hsplit haccepts] at hsteady
  obtain ⟨summaries, summaryStore, heq⟩ := takeChanges_of_faultless hfaults worker changes
  rw [heq]
  exact hsteady.congr rfl id

/-- The changes of a scan can be taken up again, also in another run of the program. Records,
chunks, symbols and relationships are then the same, and what was summarized is summarized again, as
if it had been for the first time. -/
private theorem takeChanges_again (worker : Worker) (diff head : Git.Answer)
    (commands : List Git.Command) (order : Summary.SetOrder) :
    let once := (w.takeChanges worker changes).2.index
    let again : Workspace := { w with index := once, diff, head, commands, order }
    let twice := (again.takeChanges worker changes).2.index
    (∃ summaries summaryStore, twice = { once with summaries, summaryStore }) ∧
      ∀ path, Index.Alike path ((w.restarted order).takeChanges worker changes).2.index twice := by
  intro once again twice
  have hlisted := insertion_of_faultless hfaults
  have hfirst := foreseen_of_scan hfaults howned hkept worker
  generalize hknown : ({ w with index := w.changedIndex worker changes }).succeeds = known at hfirst
  let tasks := changes.filterMap (w.task? worker known)
  have honce : once = (w.changedIndex worker changes).summarizeFiles w.indexer tasks :=
    takeChanges_index_eq hfaults hfirst
  have hsteady (change : Change) (member : change ∈ changes)
      (haccepts : worker.accepts w.settings change.path = true) :
      Index.Steady w.indexer w.files change.path once (known change.path) :=
    hknown ▸ takeChanges_steady hfaults howned hkept member haccepts
  -- The order is that of the summaries alone.
  have hsame (before : List Change) (hbefore : ∀ change ∈ before, change ∈ changes) :
      again.changedIndex worker before = once := by
    change before.foldl (Index.applyChange w.indexer w.files (worker.accepts w.settings)) once =
      once
    exact Index.foldl_applyChange_eq_self
      (fun change member => hkept change (hbefore change member))
      fun change member haccepts => ⟨_, hsteady change (hbefore change member) haccepts⟩
  have hsecond : again.Foreseen worker changes known := by
    intro before change later hsplit haccepts
    have hprior := hsame before fun earlier member => by simp [hsplit, member]
    have hsuccess := congrArg Outcome.success (hsteady change (by simp [hsplit]) haccepts).indexFile
    rw [hprior]
    exact hsuccess
  have hagain : again.faults = {} := hfaults
  have htwice : twice = once.summarizeFiles { w.indexer with order } tasks := by
    have heq : (again.takeChanges worker changes).2.index =
        (again.changedIndex worker changes).summarizeFiles again.indexer
          (changes.filterMap (again.task? worker known)) :=
      takeChanges_index_eq hagain hsecond
    rw [hsame changes fun _ member => member] at heq
    exact heq
  have hdirect : ((w.restarted order).takeChanges worker changes).2.index =
      (w.changedIndex worker changes).summarizeFiles { w.indexer with order } tasks := by
    have hforeseen : (w.restarted order).Foreseen worker changes known := hfirst
    exact takeChanges_index_eq (w := w.restarted order) hfaults hforeseen
  rw [htwice, hdirect]
  refine ⟨Index.summarizeFiles_eq _ tasks once, ?_⟩
  intro path
  rw [honce]
  exact Index.summarizeFiles_over hlisted order
    (fun _ htask _ hother => task_eq_of_path_eq htask hother)
    (changedIndex_owned hfaults howned worker changes) path

end Scan

/-- After any run, a full cycle without faults is run twice, with the same files, rules and
settings. The second one leaves all rows of the records, the chunks, the symbols and the
relationships as they are, with their numbers, and every file with the same summary. It does not
matter which files can be read, cut or are taken at all. If the program was started anew in between
it may list imports in another order. Then every file has the summary that one cycle would have
given it in that order, and the tables stay all the same. -/
theorem full_cycle_is_idempotent (w : Workspace) (h : w.Reachable) (hfaults : w.faults = {})
    (worker : Worker) (lastCommit : Option String) (diff head : Git.Answer)
    (order : Summary.SetOrder) :
    let once := w.cycle true worker
    let twice := ((once.2.answering diff head).restarted order).cycle true { worker with lastCommit }
    once.1 = .ok { worker with lastCommit := Git.currentCommit w.head } ∧
    twice.1 = .ok { worker with lastCommit := Git.currentCommit head } ∧
    twice.2.index.records = once.2.index.records ∧
    twice.2.index.chunkStore = once.2.index.chunkStore ∧
    twice.2.index.symbols = once.2.index.symbols ∧
    twice.2.index.relationships = once.2.index.relationships ∧
    (order = w.order → ∀ path, twice.2.index.view path = once.2.index.view path) ∧
    ∀ path, twice.2.index.view path =
      ((w.restarted order).cycle true worker).2.index.view path := by
  intro once twice
  let changes : List Change := w.files.paths.map fun path => ⟨path, .added⟩
  have hkept : ∀ change ∈ changes, change.status ≠ .deleted := by
    intro change member
    obtain ⟨path, -, rfl⟩ := List.mem_map.mp member
    exact fun hdeleted => by cases hdeleted
  have hlearned : w.learned true worker = .ok changes := rfl
  let asked := w.asked true worker
  have hasked : asked.faults = {} := hfaults
  have honce : once.2 =
      { asked with
        index := (asked.takeChanges worker changes).2.index
        commands := asked.commands ++ [Git.headCommand] } := by
    have hcycle := congrArg Prod.snd (cycle_of_learned hlearned)
    rw [takeChanges_eq_of_faultless hasked] at hcycle
    exact hcycle
  let again : Workspace := (once.2.answering diff head).restarted order
  have hagain : again.learned true { worker with lastCommit } = .ok changes := by
    have hfiles : again.files = w.files := (congrArg Workspace.files honce).trans rfl
    rw [learned, hfiles]
    rfl
  have htwice : twice.2.index =
      ((again.asked true { worker with lastCommit }).takeChanges worker changes).2.index :=
    (cycle_index_of_learned hagain).trans (by rw [takeChanges_of_lastCommit])
  have hsecond : again.asked true { worker with lastCommit } =
      { asked with
        index := once.2.index
        diff
        head
        commands := once.2.commands ++ Git.changeCommands none
        order } := by
    simp only [again, answering, restarted, honce]
    rfl
  have hindex : once.2.index = (asked.takeChanges worker changes).2.index :=
    (congrArg Workspace.index honce).trans rfl
  have hrestarted : (w.restarted order).learned true worker = .ok changes := rfl
  have hdirect : ((w.restarted order).cycle true worker).2.index =
      ((asked.restarted order).takeChanges worker changes).2.index :=
    cycle_index_of_learned hrestarted
  have hboth := takeChanges_again hasked h.owned hkept worker diff head
    (once.2.commands ++ Git.changeCommands none) order
  simp only [← hindex] at hboth
  rw [← hsecond, ← htwice, ← hdirect] at hboth
  obtain ⟨⟨summaries, summaryStore, heq⟩, halike⟩ := hboth
  have hviews (path : String) := (halike path).view
  refine ⟨cycle_result_of_unrefused hlearned (unrefused_of_kept worker hkept _),
    cycle_result_of_unrefused hagain (unrefused_of_kept _ hkept _), ?_, ?_, ?_, ?_, ?_, hviews⟩
  · rw [heq]
  · rw [heq]
  · rw [heq]
  · rw [heq]
  · rintro rfl path
    exact hviews path

/-- A file is indexed and summarized. Another one cannot be read, a third one cannot be cut, and the
worker does not take a fourth one. The second cycle stores the text of the summary anew, and the
rest stays. -/
theorem full_cycle_is_idempotent_on_mixed_files :
    let w : Workspace :=
      { files := { contents := [("a.py", [120]), ("b.py", [255]), ("c.py", [121]), ("d", [120])] }
        window := ⟨40, 10⟩
        splitter := fun _ text => if text = ['y'] then .error (.fault "uncut") else .ok [text]
        analyzer := some .source }
    let worker : Worker := { rules := none, suffixes := [".py"] }
    let once := (w.cycle true worker).2
    let twice := (((once.answering w.diff w.head).restarted w.order).cycle true
      { worker with lastCommit := some "c" }).2
    once.index.records.values.map (fun r => (r.path, r.status)) =
        [("a.py", .completed), ("b.py", .failed), ("c.py", .failed)] ∧
      once.index.summaryStore.owners.values = ["a.py"] ∧
      twice.index.records = once.index.records ∧ twice.index.chunkStore = once.index.chunkStore ∧
      ∀ path, twice.index.view path = once.index.view path := by
  intro w worker once twice
  refine ⟨by decide +kernel, by decide +kernel, ?_⟩
  have hreachable : w.Reachable := .empty rfl trivial
  obtain ⟨-, -, hrecords, hchunks, -, -, hviews, -⟩ :=
    full_cycle_is_idempotent w hreachable rfl worker (some "c") w.diff w.head w.order
  clear_value w
  exact ⟨hrecords, hchunks, hviews rfl⟩

private def descending : Summary.SetOrder where
  list names := (Summary.SetOrder.ascending.list names).reverse
  nodup names := by
    refine List.pairwise_reverse.mpr ?_
    exact (Summary.SetOrder.ascending.nodup names).imp fun hne heq => hne heq.symm
  mem_list names name := List.mem_reverse.trans (Summary.SetOrder.ascending.mem_list names name)

example :
    let w : Workspace :=
      { files := { contents := [("a.py", Text.Utf8.encode "import os\nimport re".toList)] }
        window := ⟨40, 10⟩
        analyzer := none }
    let worker : Worker := { rules := none, suffixes := [".py"] }
    let once := (w.cycle true worker).2
    let twice := ((once.restarted descending).cycle true worker).2
    once.index.summaries.values.map FileSummary.summary = ["Imports: os, re"] ∧
      twice.index.summaries.values.map FileSummary.summary = ["Imports: re, os"] := by
  decide +kernel

end Workspace

end CodeIndex
