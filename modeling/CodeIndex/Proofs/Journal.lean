import CodeIndex.Proofs.CallGraph

/-!
What the record of a file says of the attempts to index it.

A record is written when an attempt starts, and again on the exit at which the attempt ends. `Fate`
names what befalls a file in an attempt, or when it is to be deleted, and the journal of a run lists
the fates of all files, those of its cycles included. Whatever a run does and whatever fails in it,
its journal explains each record: a completed one has the digest of the text of the last success,
and a failed one has that digest or none. The tables of texts may answer in any way here.
-/

namespace CodeIndex

/-- What befalls a file: how an attempt to index it ends, or to delete it. -/
inductive Fate where
  /-- The file is not there, or cannot be read. -/
  | unread
  /-- Its text is indexed already. -/
  | spared (content : List Char)
  /-- Its text cannot be cut or not be stored. By then the old chunks are erased. -/
  | spoilt
  /-- Its old chunks cannot be erased. -/
  | kept
  /-- The chunks of its text are stored. -/
  | stored (content : List Char)
  | deleted
  deriving DecidableEq, Repr

def Fate.text? : Fate → Option (List Char)
  | .spared content | .stored content => some content
  | .unread | .spoilt | .kept | .deleted => none

abbrev Journal := List (String × Fate)

namespace Journal

def fatesOf (path : String) (journal : Journal) : List Fate :=
  (journal.filter fun entry => entry.1 == path).map Prod.snd

def lastText? (path : String) (journal : Journal) : Option (List Char) :=
  (fatesOf path journal).findSome? Fate.text?

theorem fatesOf_cons_self (path : String) (fate : Fate) (journal : Journal) :
    fatesOf path ((path, fate) :: journal) = fate :: fatesOf path journal := by
  simp [fatesOf]

theorem fatesOf_cons_other {path other : String} (hne : other ≠ path) (fate : Fate)
    (journal : Journal) : fatesOf other ((path, fate) :: journal) = fatesOf other journal := by
  simp [fatesOf, Ne.symm hne]

private theorem lastText?_cons_other {path other : String} (hne : other ≠ path) (fate : Fate)
    (journal : Journal) : lastText? other ((path, fate) :: journal) = lastText? other journal := by
  rw [lastText?, fatesOf_cons_other hne, lastText?]

private theorem lastText?_cons_of_some {fate : Fate} {content : List Char}
    (h : fate.text? = some content) (path : String) (journal : Journal) :
    lastText? path ((path, fate) :: journal) = some content := by
  rw [lastText?, fatesOf_cons_self, List.findSome?_cons, h]

private theorem lastText?_cons_of_none {fate : Fate} (h : fate.text? = none) (path : String)
    (journal : Journal) : lastText? path ((path, fate) :: journal) = lastText? path journal := by
  rw [lastText?, fatesOf_cons_self, List.findSome?_cons, h, lastText?]

end Journal

namespace Index

section Attempt

variable {indexer : Indexer} {files : Files} {path : String} {idx : Index}

def attempt (indexer : Indexer) (files : Files) (path : String) (idx : Index) : Fate :=
  match files.readText path with
  | .error _ => .unread
  | .ok content =>
    if idx.isCurrent path (textDigest content) then .spared content
    else if (idx.indexFile indexer files path).success then .stored content
    else if isNameable indexer.nameable (idx.chunkStore.idsOf path).length then .spoilt
    else .kept

/-- What an attempt leaves of the record of its file, by what befell the file. The Boolean tells
whether the attempt is a success. -/
inductive Leaves (files : Files) (path : String) (idx after : Index) : Fate → Bool → Prop where
  | missing (hexists : files.exists? path = false) (hsame : after = idx) :
      Leaves files path idx after .unread false
  | failed {fate : Fate} (message : String) (htext : fate.text? = none)
      (hrecord : after.record? path = some
        { idx.recordOr path with status := .failed, error := some message }) :
      Leaves files path idx after fate false
  | spared (content : List Char) (hread : files.readText path = .ok content)
      (hcurrent : idx.isCurrent path (textDigest content) = true) (hsame : after = idx) :
      Leaves files path idx after (.spared content) true
  | stored (content : List Char) (count : Nat) (hread : files.readText path = .ok content)
      (hrecord : after.record? path = some
        { path, digest := textDigest content, status := .completed, chunkCount := count,
          error := none, indexed := true }) :
      Leaves files path idx after (.stored content) true

/-- Every attempt, whatever the files hold, whatever fails and whatever the tables answer. -/
theorem indexFile_leaves (indexer : Indexer) (files : Files) (path : String) (idx : Index) :
    let outcome := idx.indexFile indexer files path
    Leaves files path idx outcome.index (idx.attempt indexer files path) outcome.success := by
  intro outcome
  cases hread : files.readText path with
  | error failure =>
      have hfate : idx.attempt indexer files path = .unread := by simp only [attempt, hread]
      rw [hfate]
      simp only [outcome, indexFile, hread]
      cases hexists : files.exists? path with
      | false => exact .missing hexists rfl
      | true => exact .failed failure.message rfl (record?_fail path failure.message idx)
  | ok content =>
      have hexists := Files.exists?_of_readText hread
      cases hcurrent : idx.isCurrent path (textDigest content) with
      | true =>
          have houtcome : outcome = ⟨idx, true, false⟩ := by
            simp [outcome, indexFile, hexists, hread, hcurrent]
          have hfate : idx.attempt indexer files path = .spared content := by
            simp [attempt, hread, hcurrent]
          rw [hfate, houtcome]
          exact .spared content hread hcurrent rfl
      | false =>
          have houtcome : outcome = idx.indexText indexer path content := by
            simp [outcome, indexFile, hexists, hread, hcurrent]
          have hfate : idx.attempt indexer files path =
              if outcome.success then .stored content
              else if isNameable indexer.nameable (idx.chunkStore.idsOf path).length then .spoilt
              else .kept := by
            simp [attempt, hread, hcurrent, outcome]
          have hnone : (if isNameable indexer.nameable (idx.chunkStore.idsOf path).length then
              Fate.spoilt else .kept).text? = none := by
            split <;> rfl
          rw [hfate, houtcome]
          rcases indexText_cases indexer path content idx with
            heq | ⟨message, heq⟩ | ⟨chunks, ids, chunkStore, -, -, heq⟩
          · rw [heq]
            refine .failed StoreFailure.tooManyRows.message hnone ?_
            rw [refused, record?_fail, recordOr_start]
          · rw [heq]
            refine .failed message hnone ?_
            rw [record?_fail, recordOr_cleared]
          · rw [heq]
            refine .stored content chunks.length hread ?_
            rw [record?_analyze, record?_complete]

/-- An attempt is a success exactly if the record is completed afterwards with the digest of the
text that was read. -/
private theorem indexFile_success_iff (indexer : Indexer) (files : Files) (path : String)
    (idx : Index) :
    let outcome := idx.indexFile indexer files path
    outcome.success = true ↔
      ∃ content r, files.readText path = .ok content ∧ outcome.index.record? path = some r ∧
        r.status = .completed ∧ r.digest = textDigest content := by
  intro outcome
  have hleaves : Leaves files path idx outcome.index _ outcome.success :=
    indexFile_leaves indexer files path idx
  generalize idx.attempt indexer files path = fate at hleaves
  constructor
  · intro hsuccess
    rw [hsuccess] at hleaves
    cases hleaves with
    | spared content hread hcurrent hsame =>
        obtain ⟨r, hrecord, hdigest, hcompleted⟩ := isCurrent_eq_true_iff.mp hcurrent
        rw [hsame]
        exact ⟨content, r, hread, hrecord, hcompleted, hdigest⟩
    | stored content count hread hrecord => exact ⟨content, _, hread, hrecord, rfl, rfl⟩
  · rintro ⟨content, r, hread, hrecord, hcompleted, -⟩
    cases hsuccess : outcome.success with
    | true => rfl
    | false =>
        rw [hsuccess] at hleaves
        cases hleaves with
        | missing hexists hsame =>
            rw [Files.exists?_of_readText hread] at hexists
            cases hexists
        | failed message htext hfailed =>
            rw [hfailed] at hrecord
            cases hrecord
            cases hcompleted

private theorem record?_indexFile_other {other : String} (hother : other ≠ path) :
    (idx.indexFile indexer files path).index.record? other = idx.record? other := by
  have hintake := indexFile_intake indexer files path idx
  generalize idx.taken? indexer files path = content at hintake
  cases hintake with
  | refused hkeeps _ => exact hkeeps.others other hother
  | taken content before hkeeps hanalyzed _ =>
      rw [hanalyzed, record?_analyze]
      exact hkeeps.others other hother

private theorem unique_indexFile (h : (idx.records.values.map Record.path).Nodup)
    (indexer : Indexer) (files : Files) (path : String) :
    ((idx.indexFile indexer files path).index.records.values.map Record.path).Nodup := by
  refine indexFile_preserves (P := fun idx => (idx.records.values.map Record.path).Nodup)
    ?_ ?_ ?_ files h
  · exact fun _ f hpath h => unique_updateRecord h f hpath
  · exact fun _ _ h => h
  · intro idx content h
    obtain ⟨symbols, relationships, heq⟩ := analyze_eq indexer path content idx
    rw [heq]
    exact h

end Attempt

section Records

variable {journal : Journal} {last : Option (List Char)} {path : String} {idx : Index} {r : Record}

/-- What a record says, given the text of the last success: that text is indexed, or a later
attempt has failed. -/
inductive Standing (last : Option (List Char)) (r : Record) : Prop where
  | completed (hstatus : r.status = .completed) (herror : r.error = none)
      (hindexed : r.indexed = true)
      (hdigest : ∃ content, last = some content ∧ textDigest content = r.digest)
  | failed (hstatus : r.status = .failed) (herror : r.error.isSome = true)
      (hdigest : r.digest = "" ∨ ∃ content, last = some content ∧ textDigest content = r.digest)

structure Explained (journal : Journal) (idx : Index) : Prop where
  unique : (idx.records.values.map Record.path).Nodup
  standing : ∀ path r, idx.record? path = some r → Standing (journal.lastText? path) r

private theorem explained_empty : Explained [] {} := by
  refine ⟨List.nodup_nil, ?_⟩
  intro path r hrecord
  cases hrecord

private theorem Standing.digest (h : Standing last r) :
    r.digest = "" ∨ ∃ content, last = some content ∧ textDigest content = r.digest := by
  cases h with
  | completed _ _ _ hdigest => exact Or.inr hdigest
  | failed _ _ hdigest => exact hdigest

/-- A failure keeps the digest of the record, which is empty if there was none. -/
theorem Explained.failed (h : Explained journal idx) (path message : String) :
    Standing (journal.lastText? path)
      { idx.recordOr path with status := .failed, error := some message } := by
  refine .failed rfl rfl ?_
  unfold recordOr
  cases hrecord : idx.record? path with
  | none => exact Or.inl rfl
  | some r => exact (h.standing path r hrecord).digest

/-- The journal explains the records after an attempt, with what befell the file in it. -/
theorem Explained.indexFile (h : Explained journal idx) (indexer : Indexer) (files : Files)
    (path : String) :
    Explained ((path, idx.attempt indexer files path) :: journal)
      (idx.indexFile indexer files path).index := by
  refine ⟨unique_indexFile h.unique indexer files path, ?_⟩
  intro other r hrecord
  by_cases hother : other = path
  · subst hother
    have hleaves : Leaves files other idx (idx.indexFile indexer files other).index _
        (idx.indexFile indexer files other).success := indexFile_leaves indexer files other idx
    generalize idx.attempt indexer files other = fate at hleaves ⊢
    generalize (idx.indexFile indexer files other).index = after at hleaves hrecord
    generalize (idx.indexFile indexer files other).success = success at hleaves
    cases hleaves with
    | missing hexists hsame =>
        rw [hsame] at hrecord
        rw [Journal.lastText?_cons_of_none rfl]
        exact h.standing other r hrecord
    | failed message htext hfailed =>
        rw [hfailed] at hrecord
        cases hrecord
        rw [Journal.lastText?_cons_of_none htext]
        exact h.failed other message
    | spared content hread hcurrent hsame =>
        -- The text that was read may be another one than the last, but has the same digest.
        obtain ⟨known, hknown, hdigest, hcompleted⟩ := isCurrent_eq_true_iff.mp hcurrent
        rw [hsame, hknown] at hrecord
        cases hrecord
        rw [Journal.lastText?_cons_of_some rfl]
        cases h.standing other r hknown with
        | completed hstatus herror hindexed _ =>
            exact .completed hstatus herror hindexed ⟨content, rfl, hdigest.symm⟩
        | failed hstatus _ _ =>
            rw [hstatus] at hcompleted
            cases hcompleted
    | stored content count hread hstored =>
        rw [hstored] at hrecord
        cases hrecord
        rw [Journal.lastText?_cons_of_some rfl]
        exact .completed rfl rfl rfl ⟨content, rfl, rfl⟩
  · rw [record?_indexFile_other hother] at hrecord
    rw [Journal.lastText?_cons_other hother]
    exact h.standing other r hrecord

/-- A deletion that fails changes nothing that the journal explains. -/
theorem Explained.kept (h : Explained journal idx) (path : String) :
    Explained ((path, .kept) :: journal) idx := by
  refine ⟨h.unique, ?_⟩
  intro other r hrecord
  by_cases hother : other = path
  · rw [hother, Journal.lastText?_cons_of_none rfl, ← hother]
    exact h.standing other r hrecord
  · rw [Journal.lastText?_cons_other hother]
    exact h.standing other r hrecord

private theorem Explained.eraseFile (h : Explained journal idx) (path : String) :
    Explained ((path, .deleted) :: journal) (idx.eraseFile path) := by
  refine ⟨unique_eraseFile h.unique path, ?_⟩
  intro other r hrecord
  by_cases hother : other = path
  · subst hother
    rw [record?_eraseFile] at hrecord
    cases hrecord
  · have hkept : (idx.eraseFile path).record? other = idx.record? other :=
      idx.records.find?_eraseWhere _ _ fun r => distinct_paths hother r.path
    rw [hkept] at hrecord
    rw [Journal.lastText?_cons_other hother]
    exact h.standing other r hrecord

private theorem Explained.summarizeFiles (h : Explained journal idx) (indexer : Indexer)
    (tasks : List SummaryTask) : Explained journal (idx.summarizeFiles indexer tasks) := by
  obtain ⟨summaries, summaryStore, heq⟩ := summarizeFiles_eq indexer tasks idx
  rw [heq]
  exact ⟨h.unique, h.standing⟩

end Records

end Index

namespace Workspace

section Cycles

def attempt (path : String) (w : Workspace) : Fate :=
  w.index.attempt w.indexer w.files path

def deletion (path : String) (w : Workspace) : Fate :=
  match (w.deleteFile path).1 with
  | .ok () => .deleted
  | .error _ => .kept

def changeJournal (worker : Worker) (w : Workspace) (change : Change) : Journal :=
  if change.status = .deleted then [(change.path, w.deletion change.path)]
  else if worker.accepts w.settings change.path then [(change.path, w.attempt change.path)]
  else []

/-- What befalls the files while changes are taken up, the one included at which that ends. -/
def changesJournal (worker : Worker) : List Change → Workspace × List SummaryTask → Journal
  | [], _ => []
  | change :: rest, state =>
    match state.1.refusal? change with
    | some _ => changeJournal worker state.1 change
    | none =>
      changesJournal worker rest (takeChange worker state change) ++
        changeJournal worker state.1 change

def cycleJournal (full : Bool) (worker : Worker) (w : Workspace) : Journal :=
  match w.learned full worker with
  | .ok changes => changesJournal worker changes (w.asked full worker, [])
  | .error _ => []

variable {P : Journal → Workspace → Prop}

/-- What the steps that a cycle is made of keep of a workspace and its journal, the cycle keeps. -/
private theorem cycle_preserves_journal
    (hindex : ∀ journal w path, P journal w →
      P ((path, w.attempt path) :: journal) (w.indexFile path).2)
    (hdelete : ∀ journal w path, P journal w →
      P ((path, w.deletion path) :: journal) (w.deleteFile path).2)
    (hsummarize : ∀ journal w tasks, P journal w → P journal (w.summarizeFiles tasks))
    (hnote : ∀ journal w commands, P journal w → P journal (w.note commands))
    (full : Bool) (worker : Worker) (journal : Journal) (w : Workspace) (h : P journal w) :
    P (w.cycleJournal full worker ++ journal) (w.cycle full worker).2 := by
  have hchange (journal : Journal) (state : Workspace × List SummaryTask) (change : Change)
      (h : P journal state.1) :
      P (changeJournal worker state.1 change ++ journal) (takeChange worker state change).1 := by
    unfold changeJournal
    rcases takeChange_cases worker state change with
      ⟨hdeleted, heq⟩ | ⟨hkept, haccepts, heq⟩ | ⟨hkept, hrefused, heq⟩
    · rw [heq, if_pos hdeleted]
      exact hdelete journal state.1 change.path h
    · rw [heq, if_neg hkept, if_pos haccepts]
      exact hindex journal state.1 change.path h
    · rw [heq, if_neg hkept, if_neg (by simp [hrefused])]
      exact h
  have hchanges (changes : List Change) : ∀ (journal : Journal)
      (state : Workspace × List SummaryTask), P journal state.1 →
      P (changesJournal worker changes state ++ journal)
        (takeEach worker changes state).2.1 := by
    induction changes with
    | nil => exact fun _ _ h => h
    | cons change rest ih =>
        intro journal state h
        have hfirst := hchange journal state change h
        rw [changesJournal, takeEach]
        cases hrefusal : state.1.refusal? change with
        | some failure =>
            -- The workspace is that before the change, which a refused one leaves as it is.
            rw [takeChange_of_refusal hrefusal] at hfirst
            exact hfirst
        | none =>
            rw [List.append_assoc]
            exact ih _ _ hfirst
  have hasked : P journal (w.asked full worker) := hnote journal w _ h
  refine cycle_of_takeEach (hsummarize _) (hnote _) ?_ ?_
  · intro changes hlearned
    rw [cycleJournal, hlearned]
    exact hchanges changes journal _ hasked
  · intro failure hlearned
    rw [cycleJournal, hlearned]
    exact hasked

end Cycles

/-- The workspaces of a run from an empty index on, with the journal of the run. Between two steps
all but the index may change, to anything that is admitted. -/
inductive Logged (admitted : Workspace → Prop) : Journal → Workspace → Prop where
  | empty {w : Workspace} (hindex : w.index = {}) (hadmitted : admitted w) : Logged admitted [] w
  | surroundings {journal : Journal} {w after : Workspace} (h : Logged admitted journal w)
      (hindex : after.index = w.index) (hadmitted : admitted after) :
      Logged admitted journal after
  | indexFile {journal : Journal} {w : Workspace} (path : String) (h : Logged admitted journal w) :
      Logged admitted ((path, w.attempt path) :: journal) (w.indexFile path).2
  | deleteFile {journal : Journal} {w : Workspace} (path : String) (h : Logged admitted journal w) :
      Logged admitted ((path, w.deletion path) :: journal) (w.deleteFile path).2
  | summarizeFiles {journal : Journal} {w : Workspace} (tasks : List SummaryTask)
      (h : Logged admitted journal w) : Logged admitted journal (w.summarizeFiles tasks)
  | cycle {journal : Journal} {w : Workspace} (full : Bool) (worker : Worker)
      (h : Logged admitted journal w) :
      Logged admitted (w.cycleJournal full worker ++ journal) (w.cycle full worker).2

/-- The induction over runs, for what is said about the index and the journal. -/
theorem Logged.index_invariant {admitted : Workspace → Prop} {Inv : Journal → Index → Prop}
    (hstable : ∀ w after, w.Continues after → admitted w → admitted after)
    (hempty : Inv [] {})
    (hindex : ∀ journal w path, admitted w → Inv journal w.index →
      Inv ((path, w.attempt path) :: journal) (w.index.indexFile w.indexer w.files path).index)
    (hdelete : ∀ journal idx path, Inv journal idx →
      Inv ((path, .deleted) :: journal) (idx.eraseFile path))
    (hkeep : ∀ journal idx path, Inv journal idx → Inv ((path, .kept) :: journal) idx)
    (hsummarize : ∀ journal (w : Workspace) tasks, Inv journal w.index →
      Inv journal (w.index.summarizeFiles w.indexer tasks))
    {journal : Journal} {w : Workspace} (h : Logged admitted journal w) :
    admitted w ∧ Inv journal w.index := by
  have hindexFile : ∀ journal w path, admitted w ∧ Inv journal w.index →
      admitted (w.indexFile path).2 ∧
        Inv ((path, w.attempt path) :: journal) (w.indexFile path).2.index := by
    intro journal w path h
    rw [indexFile_index]
    exact ⟨hstable _ _ (indexFile_continues path w) h.1, hindex journal w path h.1 h.2⟩
  have hdeleteFile : ∀ journal w path, admitted w ∧ Inv journal w.index →
      admitted (w.deleteFile path).2 ∧
        Inv ((path, w.deletion path) :: journal) (w.deleteFile path).2.index := by
    intro journal w path h
    refine ⟨hstable _ _ (deleteFile_continues path w) h.1, ?_⟩
    unfold deletion
    rcases w.deleteFile_cases path with heq | heq
    · rw [heq]
      exact hdelete journal w.index path h.2
    · rw [heq]
      exact hkeep journal w.index path h.2
  have hsummarizeFiles : ∀ journal w tasks, admitted w ∧ Inv journal w.index →
      admitted (w.summarizeFiles tasks) ∧ Inv journal (w.summarizeFiles tasks).index := by
    intro journal w tasks h
    rw [summarizeFiles_index]
    exact ⟨hstable _ _ (summarizeFiles_continues tasks w) h.1, hsummarize journal w tasks h.2⟩
  induction h with
  | empty hindex hadmitted => exact ⟨hadmitted, by rw [hindex]; exact hempty⟩
  | surroundings _ hindex hadmitted ih => exact ⟨hadmitted, by rw [hindex]; exact ih.2⟩
  | indexFile path _ ih => exact hindexFile _ _ path ih
  | deleteFile path _ ih => exact hdeleteFile _ _ path ih
  | summarizeFiles tasks _ ih => exact hsummarizeFiles _ _ tasks ih
  | cycle full worker _ ih =>
      refine cycle_preserves_journal hindexFile hdeleteFile hsummarizeFiles ?_ full worker _ _ ih
      exact fun _ w commands h => ⟨hstable w _ (w.continues_note commands) h.1, h.2⟩

variable {journal : Journal} {w : Workspace}

/-- Between two steps the files may change, and what goes wrong. -/
theorem Logged.changed {admitted : Workspace → Prop} (h : Logged admitted journal w)
    (files : Files) (faults : Faults) (hadmitted : admitted { w with files, faults }) :
    Logged admitted journal { w with files, faults } :=
  .surroundings h rfl hadmitted

private theorem Logged.explained (h : Logged (fun _ => True) journal w) :
    w.index.Explained journal := by
  refine (h.index_invariant (fun _ _ _ _ => trivial) Index.explained_empty ?_ ?_ ?_ ?_).2
  · exact fun _ w path _ hexplained => hexplained.indexFile w.indexer w.files path
  · exact fun _ _ path hexplained => hexplained.eraseFile path
  · exact fun _ _ path hexplained => hexplained.kept path
  · exact fun _ w tasks hexplained => hexplained.summarizeFiles w.indexer tasks

/-- After any run a path has one record at most, which is completed or failed. If completed, it has
no error, a time at which it was indexed, and the digest of the text of the last success; if failed,
an error and that digest or none. And an attempt to index a file is a success exactly if the record
is completed afterwards with the digest of the text that was read. -/
theorem records_are_completed_or_failed (h : Logged (fun _ => True) journal w) :
    (w.index.records.values.map Record.path).Nodup ∧
    (∀ r ∈ w.index.records.values,
      (r.status = .completed ∧ r.error = none ∧ r.indexed = true ∧
        ∃ content, journal.lastText? r.path = some content ∧ textDigest content = r.digest) ∨
      (r.status = .failed ∧ r.error.isSome = true ∧
        (r.digest = "" ∨
          ∃ content, journal.lastText? r.path = some content ∧
            textDigest content = r.digest))) ∧
    ∀ path, (w.indexFile path).1 = true ↔
      ∃ content r, w.files.readText path = .ok content ∧
        (w.indexFile path).2.index.record? path = some r ∧ r.status = .completed ∧
        r.digest = textDigest content := by
  have hexplained := h.explained
  refine ⟨hexplained.unique, ?_, ?_⟩
  · intro r member
    cases hexplained.standing r.path r (Index.record?_of_mem hexplained.unique member) with
    | completed hstatus herror hindexed hdigest =>
        exact Or.inl ⟨hstatus, herror, hindexed, hdigest⟩
    | failed hstatus herror hdigest => exact Or.inr ⟨hstatus, herror, hdigest⟩
  · intro path
    rw [indexFile_index]
    exact Index.indexFile_success_iff w.indexer w.files path w.index

/-- A file is indexed. Then it changes while the table of texts fails, beside another one that
cannot be decoded, and a full cycle takes both up. -/
theorem records_are_failed_after_cycle :
    let first : Workspace :=
      { files := { contents := [("a.py", [120])] }, window := ⟨40, 10⟩, analyzer := none }
    let failing : Workspace :=
      { (first.indexFile "a.py").2 with
        files := { contents := [("a.py", [121]), ("b.py", [255])] }
        faults := { insert := some "full" } }
    let worker : Worker := { rules := none, suffixes := [".py"] }
    let journal : Journal :=
      failing.cycleJournal true worker ++ [("a.py", first.attempt "a.py")]
    let last := (failing.cycle true worker).2
    journal = [("b.py", .unread), ("a.py", .spoilt), ("a.py", .stored ['x'])] ∧
      last.index.records.values.map (fun r => (r.path, r.status, r.digest.isEmpty)) =
        [("a.py", .failed, false), ("b.py", .failed, true)] ∧
      (∀ r ∈ last.index.records.values, r.status = .failed → r.error.isSome = true ∧
        (r.digest = "" ∨
          ∃ content, journal.lastText? r.path = some content ∧ textDigest content = r.digest)) ∧
      ((last.indexFile "a.py").1 = true ↔
        ∃ content r, last.files.readText "a.py" = .ok content ∧
          (last.indexFile "a.py").2.index.record? "a.py" = some r ∧ r.status = .completed ∧
          r.digest = textDigest content) := by
  intro first failing worker journal last
  have hfirst : Logged (fun _ => True) [] first := .empty rfl trivial
  have hfailing : Logged (fun _ => True) [("a.py", first.attempt "a.py")] failing :=
    (hfirst.indexFile "a.py").changed _ _ trivial
  have hlast : Logged (fun _ => True) journal last := .cycle true worker hfailing
  obtain ⟨-, hrecords, hsuccess⟩ := records_are_completed_or_failed hlast
  refine ⟨by decide +kernel, by decide +kernel, ?_, hsuccess "a.py"⟩
  intro r member hfailed
  rcases hrecords r member with ⟨hcompleted, -⟩ | ⟨-, herror, hdigest⟩
  · rw [hfailed] at hcompleted
    cases hcompleted
  · exact ⟨herror, hdigest⟩

end Workspace

end CodeIndex
