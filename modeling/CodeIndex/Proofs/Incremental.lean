import CodeIndex.Proofs.Cycle
import CodeIndex.Proofs.Report

/-!
An incremental cycle takes an index from one tree of files to the next.

An index is consistent with a tree if its records and chunks are those of the files in it that are
accepted, and there are no others. Consistency is a statement about each path on its own, and a
change touches the one path it names. So while a list of changes is taken up, in any order, every
path agrees with the new tree, or still with the old one and its change is yet to come.
-/

namespace CodeIndex

namespace Files

def changeAt (old new : Files) (path : String) : Option ChangeStatus :=
  match old.contents.lookup path, new.contents.lookup path with
  | none, none => none
  | none, some _ => some .added
  | some _, none => some .deleted
  | some before, some after => if before = after then none else some .modified

def Indexable (splitter : Splitter) (accepts : String → Bool) (files : Files) : Prop :=
  ∀ path ∈ files.paths, accepts path = true →
    ∃ content chunks, files.readText path = .ok content ∧
      Chunk.ofFile splitter path content = .ok chunks

/-- No file has got another text with the digest of its old one. -/
def NoCollision (old new : Files) : Prop :=
  ∀ path ∈ new.paths, ∀ before after, old.readText path = .ok before →
    new.readText path = .ok after → textDigest before = textDigest after → before = after

variable {old new : Files} {path : String} {status : ChangeStatus}

theorem lookup_eq_of_changeAt (h : changeAt old new path = none) :
    old.contents.lookup path = new.contents.lookup path := by
  unfold changeAt at h
  cases hold : old.contents.lookup path with
  | none =>
      cases hnew : new.contents.lookup path with
      | none => rfl
      | some after => simp [hold, hnew] at h
  | some before =>
      cases hnew : new.contents.lookup path with
      | none => simp [hold, hnew] at h
      | some after =>
          simp only [hold, hnew, ite_eq_left_iff, reduceCtorEq, imp_false, Decidable.not_not] at h
          rw [h]

/-- A file that differs is in the new tree, unless it is deleted. -/
private theorem mem_paths_of_changeAt (h : changeAt old new path = some status) :
    path ∈ new.paths ↔ status ≠ .deleted := by
  rw [mem_paths_iff]
  unfold changeAt at h
  cases hnew : new.contents.lookup path with
  | none =>
      cases hold : old.contents.lookup path with
      | none => simp [hold, hnew] at h
      | some before =>
          simp only [hold, hnew, Option.some.injEq] at h
          simp [← h]
  | some after =>
      have hstatus : status ≠ .deleted := by
        rintro rfl
        cases hold : old.contents.lookup path with
        | none => simp [hold, hnew] at h
        | some before => simp [hold, hnew] at h
      simp [hstatus]

theorem mem_paths_or_of_changeAt (h : changeAt old new path = some status) :
    path ∈ old.paths ∨ path ∈ new.paths := by
  rw [mem_paths_iff, mem_paths_iff]
  unfold changeAt at h
  cases hold : old.contents.lookup path with
  | some before => exact Or.inl ⟨before, rfl⟩
  | none =>
      cases hnew : new.contents.lookup path with
      | some after => exact Or.inr ⟨after, rfl⟩
      | none => simp [hold, hnew] at h

private theorem ne_empty_of_changeAt (hold : old.Named) (hnew : new.Named)
    (h : changeAt old new path = some status) : path ≠ "" := by
  have hempty {f : Files} (hnamed : f.Named) : "" ∉ f.paths :=
    fun member => absurd (hnamed "" member) (by decide)
  rintro rfl
  rcases mem_paths_or_of_changeAt h with member | member
  · exact hempty hold member
  · exact hempty hnew member

end Files

namespace Index

/-- The index is consistent with a tree. The records are those of the accepted files; each is
completed, with the digest of the text of its file; the rows of each are the chunks of that text;
and there are no other rows. The tables agree with each other, as they do in every run. -/
structure Consistent (splitter : Splitter) (accepts : String → Bool) (files : Files)
    (idx : Index) : Prop where
  wellFormed : idx.WellFormed
  paths : ∀ path, (∃ r ∈ idx.records.values, r.path = path) ↔
    path ∈ files.paths ∧ accepts path = true
  records : ∀ r ∈ idx.records.values, r.status = .completed ∧
    ∃ content, files.readText r.path = .ok content ∧ r.digest = textDigest content ∧
      Chunk.ofFile splitter r.path content = .ok (idx.chunksOf r.path)
  rows : ∀ row ∈ idx.chunkStore.chunks.rows, ∃ r ∈ idx.records.values, r.path = row.2.filePath

structure FileConsistent (splitter : Splitter) (accepts : String → Bool) (files : Files)
    (path : String) (idx : Index) : Prop where
  taken : path ∈ files.paths → accepts path = true →
    ∃ content, files.readText path = .ok content ∧ idx.isCurrent path (textDigest content) = true ∧
      Chunk.ofFile splitter path content = .ok (idx.chunksOf path)
  left : ¬(path ∈ files.paths ∧ accepts path = true) →
    idx.record? path = none ∧ idx.chunksOf path = []

section Paths

variable {splitter : Splitter} {accepts : String → Bool} {files : Files} {path : String}
  {idx after : Index}

private theorem Consistent.file (h : idx.Consistent splitter accepts files) (path : String) :
    idx.FileConsistent splitter accepts files path := by
  refine ⟨?_, ?_⟩
  · intro hpath haccepts
    obtain ⟨r, member, rfl⟩ := (h.paths path).mpr ⟨hpath, haccepts⟩
    obtain ⟨hcompleted, content, hread, hdigest, hcut⟩ := h.records r member
    have hrecord := h.wellFormed.record?_of_mem member
    exact ⟨content, hread, isCurrent_eq_true_iff.mpr ⟨r, hrecord, hdigest, hcompleted⟩, hcut⟩
  · intro hleft
    have hnone : ∀ r ∈ idx.records.values, r.path ≠ path := by
      intro r member heq
      exact hleft ((h.paths path).mp ⟨r, member, heq⟩)
    refine ⟨record?_eq_none_iff.mpr hnone, ?_⟩
    apply List.filter_eq_nil_iff.mpr
    intro c member
    obtain ⟨row, hrow, rfl⟩ := List.mem_map.mp member
    obtain ⟨r, hr, hpath⟩ := h.rows row hrow
    have hne := hnone r hr
    rw [hpath] at hne
    simpa using hne

private theorem FileConsistent.record?_isSome_iff
    (h : idx.FileConsistent splitter accepts files path) :
    (∃ r, idx.record? path = some r) ↔ path ∈ files.paths ∧ accepts path = true := by
  constructor
  · rintro ⟨r, hrecord⟩
    refine Classical.byContradiction fun hleft => ?_
    rw [(h.left hleft).1] at hrecord
    cases hrecord
  · rintro ⟨hpath, haccepts⟩
    obtain ⟨content, -, hcurrent, -⟩ := h.taken hpath haccepts
    obtain ⟨r, hrecord, -⟩ := isCurrent_eq_true_iff.mp hcurrent
    exact ⟨r, hrecord⟩

private theorem Consistent.of_files (hwell : idx.WellFormed)
    (h : ∀ path, idx.FileConsistent splitter accepts files path) :
    idx.Consistent splitter accepts files := by
  have hpaths : ∀ path, (∃ r ∈ idx.records.values, r.path = path) ↔
      ∃ r, idx.record? path = some r := by
    intro path
    constructor
    · rintro ⟨r, member, rfl⟩
      exact ⟨r, hwell.record?_of_mem member⟩
    · rintro ⟨r, hrecord⟩
      exact ⟨r, List.mem_of_find?_eq_some hrecord, path_of_record? hrecord⟩
  refine ⟨hwell, ?_, ?_, ?_⟩
  · intro path
    exact (hpaths path).trans (h path).record?_isSome_iff
  · intro r member
    have hrecord := hwell.record?_of_mem member
    obtain ⟨hpath, haccepts⟩ := (h r.path).record?_isSome_iff.mp ⟨r, hrecord⟩
    obtain ⟨content, hread, hcurrent, hcut⟩ := (h r.path).taken hpath haccepts
    obtain ⟨s, hagain, hdigest, hcompleted⟩ := isCurrent_eq_true_iff.mp hcurrent
    rw [hrecord] at hagain
    cases hagain
    exact ⟨hcompleted, content, hread, hdigest, hcut⟩
  · intro row member
    apply (hpaths _).mpr
    apply (h row.2.filePath).record?_isSome_iff.mpr
    refine Classical.byContradiction fun hleft => ?_
    have hnone := ((h row.2.filePath).left hleft).2
    exact (hwell.store.rows_of_chunksOf_eq_nil hnone).1 row member rfl

private theorem consistent_empty : ({} : Index).Consistent splitter accepts {} := by
  refine .of_files wellFormed_empty fun path => ⟨?_, fun _ => ⟨rfl, rfl⟩⟩
  intro hpath
  cases hpath

private theorem FileConsistent.congr (h : idx.FileConsistent splitter accepts files path)
    (hrecord : after.record? path = idx.record? path)
    (hchunks : after.chunksOf path = idx.chunksOf path) :
    after.FileConsistent splitter accepts files path := by
  have hcurrent (digest : String) : after.isCurrent path digest = idx.isCurrent path digest := by
    rw [isCurrent, isCurrent, hrecord]
  refine ⟨?_, ?_⟩
  · simpa only [hcurrent, hchunks] using h.taken
  · simpa only [hrecord, hchunks] using h.left

/-- Where two trees do not differ, an index is consistent with both or with neither. -/
private theorem FileConsistent.of_changeAt_eq_none {old new : Files} (hnew : new.Named)
    (hsame : Files.changeAt old new path = none)
    (h : idx.FileConsistent splitter accepts old path) :
    idx.FileConsistent splitter accepts new path := by
  have hlookup := Files.lookup_eq_of_changeAt hsame
  have hmem : path ∈ old.paths ↔ path ∈ new.paths := by
    rw [Files.mem_paths_iff, Files.mem_paths_iff, hlookup]
  refine ⟨?_, ?_⟩
  · intro hpath haccepts
    obtain ⟨bytes, hbytes⟩ := (new.mem_paths_iff path).mp hpath
    have hread := Files.readText_eq_of_lookup_eq old new path (hnew path hpath) bytes
      (hlookup.trans hbytes) hbytes
    rw [← hread]
    exact h.taken (hmem.mpr hpath) haccepts
  · rw [← hmem]
    exact h.left

end Paths

section Changes

variable {indexer : Indexer} {accepts : String → Bool} {old new : Files} {idx : Index}

private theorem isCurrent_digest_eq {path first second : String}
    (h₁ : idx.isCurrent path first = true) (h₂ : idx.isCurrent path second = true) :
    first = second := by
  obtain ⟨r, hrecord, hdigest, -⟩ := isCurrent_eq_true_iff.mp h₁
  obtain ⟨s, hagain, hsecond, -⟩ := isCurrent_eq_true_iff.mp h₂
  rw [hrecord] at hagain
  cases hagain
  exact hdigest.symm.trans hsecond

/-- A record that spares the work on a file is right about its chunks, whichever of the two trees
the index has it from. -/
private theorem chunksOf_of_isCurrent {path : String} {content : List Char} {chunks : List Chunk}
    (hpath : path ∈ new.paths) (haccepts : accepts path = true)
    (hcollision : Files.NoCollision old new) (hread : new.readText path = .ok content)
    (hcut : Chunk.ofFile indexer.splitter path content = .ok chunks)
    (h : idx.FileConsistent indexer.splitter accepts new path ∨
      idx.FileConsistent indexer.splitter accepts old path)
    (hcurrent : idx.isCurrent path (textDigest content) = true) : idx.chunksOf path = chunks := by
  have hsame : Chunk.ofFile indexer.splitter path content = .ok (idx.chunksOf path) := by
    rcases h with hnew | hold
    · obtain ⟨_, hagain, -, hchunks⟩ := hnew.taken hpath haccepts
      rw [hread] at hagain
      cases hagain
      exact hchunks
    · -- A record from the old tree can only have the digest of the text that the file had there.
      obtain ⟨r, hrecord, -⟩ := isCurrent_eq_true_iff.mp hcurrent
      have hpathOld := (hold.record?_isSome_iff.mp ⟨r, hrecord⟩).1
      obtain ⟨before, hbefore, hcurrentBefore, hchunks⟩ := hold.taken hpathOld haccepts
      have hdigest := isCurrent_digest_eq hcurrentBefore hcurrent
      rw [← hcollision path hpath before content hbefore hread hdigest]
      exact hchunks
  rw [hcut] at hsame
  cases hsame
  rfl

/-- A change brings the file that it names from the old tree to the new one, or leaves it there. -/
theorem FileConsistent.applyChange (hwell : idx.WellFormed) (hfaultless : indexer.IsFaultless)
    (hindexable : new.Indexable indexer.splitter accepts)
    (hcollision : Files.NoCollision old new) {change : Change}
    (hchange : Files.changeAt old new change.path = some change.status)
    (h : idx.FileConsistent indexer.splitter accepts new change.path ∨
      idx.FileConsistent indexer.splitter accepts old change.path) :
    (idx.applyChange indexer new accepts change).FileConsistent indexer.splitter accepts new
      change.path := by
  have hmem := Files.mem_paths_of_changeAt hchange
  unfold Index.applyChange
  split
  · rename_i hdeleted
    refine ⟨fun hpath _ => absurd hdeleted (hmem.mp hpath), fun _ => ?_⟩
    rw [hfaultless.unlimited, afterDelete_of_unlimited]
    exact ⟨record?_eraseFile change.path idx, hwell.chunksOf_eraseFile change.path⟩
  · rename_i hkept
    have hpath := hmem.mpr hkept
    split
    · rename_i haccepts
      obtain ⟨content, chunks, hread, hcut⟩ := hindexable change.path hpath haccepts
      have hspared := chunksOf_of_isCurrent hpath haccepts hcollision hread hcut h
      have hdone := hwell.indexFile_completed hfaultless hread hcut hspared
      refine ⟨fun _ _ => ⟨content, hread, hdone.1, ?_⟩, fun hleft => absurd ⟨hpath, haccepts⟩ hleft⟩
      rw [hdone.2]
      exact hcut
    · rename_i hrejected
      have hleft : ∀ files : Files, ¬(change.path ∈ files.paths ∧ accepts change.path = true) :=
        fun files hboth => hrejected hboth.2
      refine ⟨fun _ haccepts => absurd haccepts hrejected, fun _ => ?_⟩
      rcases h with hnew | hold
      · exact hnew.left (hleft new)
      · exact hold.left (hleft old)

/-- While changes are taken up, a path that does not agree with the new tree yet agrees with the old
one, and its change is still to come. -/
private theorem foldl_applyChange_consistent (hfaultless : indexer.IsFaultless)
    (hindexable : new.Indexable indexer.splitter accepts)
    (hcollision : Files.NoCollision old new) (changes : List Change)
    (hchanges : ∀ change ∈ changes, Files.changeAt old new change.path = some change.status)
    (hwell : idx.WellFormed)
    (h : ∀ path, idx.FileConsistent indexer.splitter accepts new path ∨
      idx.FileConsistent indexer.splitter accepts old path ∧
        ∃ change ∈ changes, change.path = path) :
    (changes.foldl (Index.applyChange indexer new accepts) idx).Consistent indexer.splitter accepts
      new := by
  have hdefinite := hfaultless.definite
  induction changes generalizing idx with
  | nil =>
      refine .of_files hwell fun path => ?_
      rcases h path with hnew | ⟨-, _, hnone, -⟩
      · exact hnew
      · cases hnone
  | cons change rest ih =>
      have hsame : SameBut change.path idx (idx.applyChange indexer new accepts change) :=
        hwell.applyChange_sameBut hdefinite change
      refine ih (fun later member => hchanges later (List.mem_cons_of_mem _ member))
        (hwell.applyChange hdefinite change) fun path => ?_
      by_cases hpath : path = change.path
      -- The path may be named again by a later change: it then agrees with the new tree already.
      · subst hpath
        have hboth := (h change.path).imp_right And.left
        have hchange := hchanges change (by simp)
        exact Or.inl (.applyChange hwell hfaultless hindexable hcollision hchange hboth)
      · have hrecord := hsame.record?_eq hpath
        have hchunks := hsame.chunksOf_eq hpath
        refine (h path).imp (fun hnew => hnew.congr hrecord hchunks) ?_
        rintro ⟨hold, later, member, hlater⟩
        refine ⟨hold.congr hrecord hchunks, later, ?_, hlater⟩
        rcases List.mem_cons.mp member with rfl | htail
        · exact absurd hlater.symm hpath
        · exact htail

end Changes

end Index

namespace Workspace

/-- If version control reports exactly the files that differ between two trees, an incremental cycle
takes an index that is consistent with the old tree to one that is consistent with the new tree. -/
theorem incremental_cycle_consistent (w : Workspace) (worker : Worker) (old : Files)
    (changes : List Change) (commit : String)
    (h : w.index.Consistent w.splitter (worker.accepts w.settings) old)
    (hold : old.Named) (hnew : w.files.Named)
    (hindexable : w.files.Indexable w.splitter (worker.accepts w.settings))
    (hcollision : Files.NoCollision old w.files)
    (hcommit : Git.base? worker.lastCommit = some commit)
    (hdiff : w.diff = .read 0 (Git.report changes))
    (hexact : ∀ change, change ∈ changes ↔
      Files.changeAt old w.files change.path = some change.status)
    (hplain : ∀ change ∈ changes, Git.isPlain change.path = true) (hfaults : w.faults = {}) :
    (∃ next, (w.cycle false worker).1 = .ok next) ∧
      (w.cycle false worker).2.index.Consistent w.splitter (worker.accepts w.settings) w.files := by
  have hsplitter := splitter_of_faultless hfaults
  rw [← hsplitter] at h hindexable ⊢
  have hchanges : Git.changesSince w.files.paths worker.lastCommit w.diff = .ok changes := by
    simp only [Git.changesSince, hcommit, hdiff, Git.Answer.read, ↓reduceIte, String.toList_ofList]
    refine Git.changesOf_unixLines_report fun change member => ⟨hplain change member, ?_⟩
    exact Files.ne_empty_of_changeAt hold hnew ((hexact change).mp member)
  obtain ⟨hnext, summaries, summaryStore, hindex⟩ :=
    cycle_of_faultless hfaults false worker hchanges
  refine ⟨hnext, ?_⟩
  have hfold := Index.foldl_applyChange_consistent (indexer_faultless hfaults) hindexable
    hcollision changes (fun change => (hexact change).mp) h.wellFormed fun path => ?_
  · rw [hindex]
    exact ⟨⟨hfold.wellFormed.store, hfold.wellFormed.unique⟩, hfold.paths, hfold.records,
      hfold.rows⟩
  · cases hchange : Files.changeAt old w.files path with
    | none => exact Or.inl ((h.file path).of_changeAt_eq_none hnew hchange)
    | some status => exact Or.inr ⟨h.file path, ⟨path, status⟩, (hexact _).mpr hchange, rfl⟩

/-- Two files and one that is not accepted come into an empty project; then two of them are
modified, one is deleted and another one is added. -/
theorem incremental_cycles_consistent_from_empty :
    let worker : Worker := { rules := none, suffixes := [".py", ".md"], lastCommit := some "c0" }
    let first : Workspace :=
      { files := { contents := [("a.py", [120]), ("b.md", [121]), ("c.txt", [122])] }
        window := ⟨2, 0⟩
        analyzer := none
        diff := { output := "A\ta.py\nA\tc.txt\nA\tb.md\n" } }
    let second : Workspace :=
      { first with
        files := { contents := [("a.py", [121, 122, 10]), ("c.txt", [120]), ("d.py", [119])] }
        diff := { output := "D\tb.md\nM\tc.txt\nA\td.py\nM\ta.py\n" }
        index := (first.cycle false worker).2.index }
    second.index.Consistent first.splitter (worker.accepts first.settings) first.files ∧
      (second.cycle false worker).2.index.Consistent first.splitter
        (worker.accepts first.settings) second.files := by
  intro worker first second
  -- What is asked of two trees is checked path by path.
  have hindexable (files : Files) (h : ∀ path ∈ files.paths, (files.readText path).isOk = true) :
      files.Indexable first.splitter (worker.accepts first.settings) := by
    intro path member _
    cases hread : files.readText path with
    | error failure => simpa [hread, Except.isOk, Except.toBool] using h path member
    | ok content => exact ⟨content, _, rfl, rfl⟩
  have hcollision (old new : Files) (h : ∀ path ∈ new.paths,
      (old.readText path).toOption.map textDigest ≠ (new.readText path).toOption.map textDigest) :
      Files.NoCollision old new := by
    intro path member before after hbefore hafter hdigest
    refine absurd ?_ (h path member)
    rw [hbefore, hafter]
    exact congrArg some hdigest
  have hexact (old new : Files) (changes : List Change)
      (h : ∀ path ∈ old.paths ++ new.paths, ∀ status ∈ [ChangeStatus.added, .modified, .deleted],
        ⟨path, status⟩ ∈ changes ↔ Files.changeAt old new path = some status)
      (hpaths : ∀ change ∈ changes, change.path ∈ old.paths ++ new.paths) (change : Change) :
      change ∈ changes ↔ Files.changeAt old new change.path = some change.status := by
    have hstatus : change.status ∈ [ChangeStatus.added, .modified, .deleted] := by
      cases change.status <;> decide
    constructor
    · exact fun member => (h change.path (hpaths change member) _ hstatus).mp member
    · intro hchange
      have member := List.mem_append.mpr (Files.mem_paths_or_of_changeAt hchange)
      exact (h change.path member _ hstatus).mpr hchange
  have hfirst := (incremental_cycle_consistent first worker {}
    [⟨"a.py", .added⟩, ⟨"c.txt", .added⟩, ⟨"b.md", .added⟩] "c0" Index.consistent_empty (by decide)
    (by decide) (hindexable _ (by decide)) (hcollision _ _ (by decide +kernel)) rfl rfl
    (hexact _ _ _ (by decide) (by decide)) (by decide) rfl).2
  have hsecond := (incremental_cycle_consistent second worker first.files
    [⟨"b.md", .deleted⟩, ⟨"c.txt", .modified⟩, ⟨"d.py", .added⟩, ⟨"a.py", .modified⟩] "c0" hfirst
    (by decide) (by decide) (hindexable _ (by decide)) (hcollision _ _ (by decide +kernel)) rfl rfl
    (hexact _ _ _ (by decide) (by decide)) (by decide) rfl).2
  exact ⟨hfirst, hsecond⟩

/-- A file whose path has a carriage return comes into an empty project. The report of it cannot be
read, so the cycle ends without a result, and the file is not in the index. -/
theorem incremental_cycle_fails_at_carriage_return :
    let worker : Worker := { rules := none, suffixes := [".py"], lastCommit := some "c0" }
    let path := "a\rb.py"
    let w : Workspace :=
      { files := { contents := [(path, [120])] }
        window := ⟨2, 0⟩
        analyzer := none
        diff := .read 0 (Git.report [⟨path, .added⟩]) }
    w.index.Consistent w.splitter (worker.accepts w.settings) {} ∧
      Files.changeAt {} w.files path = some .added ∧ worker.accepts w.settings path = true ∧
      '\n' ∉ path.toList ∧ path.toList.getLast?.any Text.isBlank = false ∧
      (w.cycle false worker).1 = .error (.changes .noTab) ∧
      (w.cycle false worker).2.index.record? path = none := by
  intro worker path w
  have hlearned : w.learned false worker = .error .noTab := by decide +kernel
  rw [cycle_of_not_learned hlearned]
  exact ⟨Index.consistent_empty, by decide +kernel, by decide +kernel, by decide, by decide,
    rfl, rfl⟩

end Workspace

end CodeIndex
