import CodeIndex.Proofs.Admission
import CodeIndex.Proofs.Changes
import CodeIndex.Proofs.Rebuild
import CodeIndex.Proofs.Report
import Mathlib.Data.List.Induction

/-!
What becomes of a file that is renamed.

The line for a rename has the old path and the new one behind its status. It is read as the
modification of one file whose path is all that follows the first tabulator, so it touches neither
the old file nor the new one. What a cycle does to the two of them is told by the other lines of the
report: the last one that names a path decides.
-/

namespace CodeIndex

open CodeIndex.Text

namespace Git

/-- A rename, with the score of likeness that is printed behind its letter. -/
structure Rename where
  score : List Char
  old : String
  new : String
  token : isToken ('R' :: score) = true
  shown_old : isShown old = true
  shown_new : isShown new = true

namespace Rename

variable (r : Rename)

def entry : Entry where
  status := 'R' :: r.score
  path := r.old ++ "\t" ++ r.new
  token := r.token
  shown := by
    obtain ⟨hold, c, member, hc⟩ := isShown_iff.mp r.shown_old
    obtain ⟨hnew, -⟩ := isShown_iff.mp r.shown_new
    rw [isShown_iff]
    constructor
    · simp [hold, hnew]
    · exact ⟨c, by simp [member], hc⟩

end Rename

def weight (path : String) : Nat :=
  path.toList.countP fun c => !isBlank c

private theorem weight_pos {path : String} (h : isShown path = true) : 0 < weight path := by
  obtain ⟨-, c, member, hc⟩ := isShown_iff.mp h
  exact List.countP_pos_iff.mpr ⟨c, member, by simp [hc]⟩

private theorem weight_trimmed (e : Entry) : weight e.trimmed.path = weight e.path := by
  have hfilter := filter_dropEndWhile (p := isBlank) e.path.toList
  simp only [weight, Entry.trimmed, String.toList_ofList, trimEnd, List.countP_eq_length_filter,
    hfilter]

private theorem Rename.weight_entry (r : Rename) :
    weight r.entry.path = weight r.old + weight r.new := by
  have htab : isBlank '\t' = true := by decide
  simp [weight, entry, htab]

/-- The path that is read from the line of a rename is neither of its two paths. -/
private theorem Rename.path_ne (r : Rename) {e : Entry} (h : weight e.path = weight r.entry.path) :
    e.path ≠ r.old ∧ e.path ≠ r.new := by
  have hold := weight_pos r.shown_old
  have hnew := weight_pos r.shown_new
  rw [r.weight_entry] at h
  constructor
  · intro heq
    rw [heq] at h
    omega
  · intro heq
    rw [heq] at h
    omega

/-- Among the changes that are read from a report, the one for a rename names neither path. -/
private theorem Rename.exists_change (r : Rename) (before after : List Entry) :
    ∃ change : Change, (change.path ≠ r.old ∧ change.path ≠ r.new) ∧
      (trimLast (before ++ r.entry :: after)).map Entry.change =
        before.map Entry.change ++ change :: (trimLast after).map Entry.change := by
  rw [trimLast_append_cons]
  cases after with
  | nil =>
      exact ⟨r.entry.trimmed.change, r.path_ne (weight_trimmed r.entry), by simp [trimLast]⟩
  | cons next after => exact ⟨r.entry.change, r.path_ne rfl, by simp [trimLast]⟩

end Git

namespace Change

/-- What the last of the changes that name a path does to it. -/
def lastStatus? (path : String) (changes : List Change) : Option ChangeStatus :=
  (changes.reverse.find? fun change => change.path == path).map Change.status

variable {path : String} {changes : List Change} {status : ChangeStatus}

private theorem lastStatus?_concat (path : String) (changes : List Change) (change : Change) :
    lastStatus? path (changes ++ [change]) =
      if change.path = path then some change.status else lastStatus? path changes := by
  by_cases h : change.path = path <;> simp [lastStatus?, h]

private theorem mem_of_lastStatus? (h : lastStatus? path changes = some status) :
    ⟨path, status⟩ ∈ changes := by
  obtain ⟨change, hfind, rfl⟩ := Option.map_eq_some_iff.mp h
  have hpath : change.path = path := by simpa using List.find?_some hfind
  subst hpath
  exact List.mem_reverse.mp (List.mem_of_find?_eq_some hfind)

/-- A change of another file does not matter. -/
private theorem lastStatus?_append_cons {change : Change} (h : change.path ≠ path)
    (before after : List Change) :
    lastStatus? path (before ++ change :: after) = lastStatus? path (before ++ after) := by
  simp [lastStatus?, List.find?_append, h]

end Change

namespace Index

variable {indexer : Indexer} {files : Files} {accepts : String → Bool} {idx : Index} {path : String}
  {contents : Set (List Char)} {content : List Char}

private theorem indexFile_of_not_exists (h : files.exists? path = false) (idx : Index) :
    (idx.indexFile indexer files path).index = idx := by
  simp [indexFile, h]

/-- After a change nothing is recorded of a file if it has been deleted, or if nothing was and it is
not there to be taken up. -/
private theorem WellFormed.record?_applyChange_eq_none_iff (h : idx.WellFormed)
    (hfaultless : indexer.IsFaultless) (haccepts : accepts path = true) (change : Change) :
    (idx.applyChange indexer files accepts change).record? path = none ↔
      if change.path = path then
        change.status = .deleted ∨ files.exists? path = false ∧ idx.record? path = none
      else idx.record? path = none := by
  by_cases hpath : change.path = path
  · rw [if_pos hpath]
    by_cases hdeleted : change.status = .deleted
    · simp [Index.applyChange, hdeleted, hpath, hfaultless.unlimited, afterDelete_of_unlimited,
        record?_eraseFile]
    · cases hexists : files.exists? path with
      | false =>
          simp [Index.applyChange, hdeleted, hpath, haccepts, indexFile_of_not_exists hexists]
      | true =>
          simp [Index.applyChange, hdeleted, hpath, haccepts,
            record?_indexFile_ne_none hexists indexer idx]
  · have hsame : SameBut change.path idx (idx.applyChange indexer files accepts change) :=
      h.applyChange_sameBut hfaultless.definite change
    rw [if_neg hpath, hsame.record?_eq (Ne.symm hpath)]

/-- After a change that names it a file that can be indexed is current, unless it is deleted. -/
private theorem Coherent.isCurrent_applyChange_iff (h : Coherent indexer.splitter contents idx)
    (hinj : Set.InjOn textDigest contents) (hfaultless : indexer.IsFaultless)
    (hcontent : content ∈ contents) (hread : files.readText path = .ok content)
    (haccepts : accepts path = true) {chunks : List Chunk}
    (hcut : Chunk.ofFile indexer.splitter path content = .ok chunks) (change : Change) :
    (idx.applyChange indexer files accepts change).isCurrent path (textDigest content) = true ↔
      if change.path = path then change.status ≠ .deleted
      else idx.isCurrent path (textDigest content) = true := by
  by_cases hpath : change.path = path
  · rw [if_pos hpath]
    by_cases hdeleted : change.status = .deleted
    · simp [Index.applyChange, hdeleted, hpath, hfaultless.unlimited, afterDelete_of_unlimited,
        isCurrent, record?_eraseFile]
    · have hsettled := h.indexFile_settled hinj hcontent hfaultless hread
      rw [Settled, hcut] at hsettled
      simp [Index.applyChange, hdeleted, hpath, haccepts, hsettled.1]
  · have hdefinite := hfaultless.definite
    have hsame : SameBut change.path idx (idx.applyChange indexer files accepts change) :=
      h.wellFormed.applyChange_sameBut hdefinite change
    rw [if_neg hpath, isCurrent, isCurrent, hsame.record?_eq (Ne.symm hpath)]

section Run

variable (h : Coherent indexer.splitter contents idx) (hfaultless : indexer.IsFaultless)
  (htexts : ∀ path content, files.readText path = .ok content → content ∈ contents)

include h hfaultless htexts

private theorem Coherent.foldl_applyChange (changes : List Change) :
    Coherent indexer.splitter contents
      (changes.foldl (Index.applyChange indexer files accepts) idx) :=
  List.foldlRecOn (motive := Coherent indexer.splitter contents) changes _ h
    fun _ hidx change _ => hidx.applyChange hfaultless htexts change

/-- Of a file with a record nothing is left exactly if the last change that names it deletes it.
Where the file is not there, no later change brings it back. -/
private theorem Coherent.record?_foldl_eq_none_iff (haccepts : accepts path = true)
    (hrecord : idx.record? path ≠ none) (changes : List Change) :
    (changes.foldl (Index.applyChange indexer files accepts) idx).record? path = none ↔
      Change.lastStatus? path changes = some .deleted ∨
        files.exists? path = false ∧ ⟨path, .deleted⟩ ∈ changes := by
  induction changes using List.reverseRecOn with
  | nil => simp [hrecord, Change.lastStatus?]
  | append_singleton changes change ih =>
      have hbefore : Coherent indexer.splitter contents
          (changes.foldl (Index.applyChange indexer files accepts) idx) :=
        h.foldl_applyChange hfaultless htexts changes
      rw [List.foldl_append, List.foldl_cons, List.foldl_nil, Change.lastStatus?_concat,
        hbefore.wellFormed.record?_applyChange_eq_none_iff hfaultless haccepts]
      simp only [ih]
      have hmem : Change.lastStatus? path changes = some .deleted → ⟨path, .deleted⟩ ∈ changes :=
        Change.mem_of_lastStatus?
      obtain ⟨named, status⟩ := change
      by_cases hpath : named = path
      · subst named
        by_cases hdeleted : status = .deleted
        · simp [hdeleted]
        · have hearlier : (⟨path, .deleted⟩ : Change) ∈ changes ++ [⟨path, status⟩] ↔
              ⟨path, .deleted⟩ ∈ changes := by
            simp [Ne.symm hdeleted]
          simp only [↓reduceIte, hdeleted, false_or, hearlier, Option.some.injEq]
          exact and_congr_right fun hgone => ⟨fun hcause => hcause.elim hmem And.right,
            fun member => Or.inr ⟨hgone, member⟩⟩
      · simp [hpath, Ne.symm hpath]

/-- A file that can be indexed is current exactly if the last change that names it does not delete
it; where no change names it, if it was current before. -/
private theorem Coherent.isCurrent_foldl_iff (hinj : Set.InjOn textDigest contents)
    (hread : files.readText path = .ok content) (haccepts : accepts path = true)
    {chunks : List Chunk} (hcut : Chunk.ofFile indexer.splitter path content = .ok chunks)
    (changes : List Change) :
    (changes.foldl (Index.applyChange indexer files accepts) idx).isCurrent path
        (textDigest content) = true ↔
      Change.lastStatus? path changes ≠ some .deleted ∧
        (Change.lastStatus? path changes = none →
          idx.isCurrent path (textDigest content) = true) := by
  induction changes using List.reverseRecOn with
  | nil => simp [Change.lastStatus?]
  | append_singleton changes change ih =>
      have hbefore : Coherent indexer.splitter contents
          (changes.foldl (Index.applyChange indexer files accepts) idx) :=
        h.foldl_applyChange hfaultless htexts changes
      have hcontent := htexts path content hread
      rw [List.foldl_append, List.foldl_cons, List.foldl_nil, Change.lastStatus?_concat,
        hbefore.isCurrent_applyChange_iff hinj hfaultless hcontent hread haccepts hcut, ih]
      by_cases hpath : change.path = path
      · simp [hpath]
      · simp [hpath]

/-- A file without a record has no chunks either. -/
private theorem Coherent.forgotten_foldl_iff (haccepts : accepts path = true)
    (hrecord : idx.record? path ≠ none) (changes : List Change) :
    let after := changes.foldl (Index.applyChange indexer files accepts) idx
    after.record? path = none ∧ after.chunksOf path = [] ↔
      Change.lastStatus? path changes = some .deleted ∨
        files.exists? path = false ∧ ⟨path, .deleted⟩ ∈ changes := by
  intro after
  have hafter : Coherent indexer.splitter contents after :=
    h.foldl_applyChange hfaultless htexts changes
  rw [and_iff_left_of_imp (hafter.files path).unrecorded]
  exact h.record?_foldl_eq_none_iff hfaultless htexts haccepts hrecord changes

/-- A file that is current has its chunks. -/
private theorem Coherent.indexed_foldl_iff (hinj : Set.InjOn textDigest contents)
    (hread : files.readText path = .ok content) (haccepts : accepts path = true)
    {chunks : List Chunk} (hcut : Chunk.ofFile indexer.splitter path content = .ok chunks)
    (changes : List Change) :
    let after := changes.foldl (Index.applyChange indexer files accepts) idx
    after.isCurrent path (textDigest content) = true ∧ after.chunksOf path = chunks ↔
      Change.lastStatus? path changes ≠ some .deleted ∧
        (Change.lastStatus? path changes = none →
          idx.isCurrent path (textDigest content) = true) := by
  intro after
  have hafter : Coherent indexer.splitter contents after :=
    h.foldl_applyChange hfaultless htexts changes
  have hchunks (hcurrent : after.isCurrent path (textDigest content) = true) :
      after.chunksOf path = chunks := by
    have hsame := hafter.ofFile_of_isCurrent hinj (htexts path content hread) hcurrent
    exact Except.ok.inj (hsame.symm.trans hcut)
  rw [and_iff_left_of_imp hchunks]
  exact h.isCurrent_foldl_iff hfaultless htexts hinj hread haccepts hcut changes

end Run

end Index

namespace Workspace

variable {splitter : Splitter} {contents : Set (List Char)} {w : Workspace}

/-- The line for a rename touches neither of its paths. After a cycle that compares commits the old
path is forgotten exactly if another line deletes it, and the new path is indexed exactly if the
last other line that names it does not delete it or, where there is none, if it was indexed
before. -/
theorem rename_is_followed_iff (h : Reached (Within splitter contents) w)
    (hinj : Set.InjOn textDigest contents) (hfaults : w.faults = {}) (worker : Worker)
    (hcompares : ¬Git.Scans worker.lastCommit w.diff) (before after : List Git.Entry)
    (r : Git.Rename)
    (hreport : w.diff.output = String.ofList (Git.nameStatus (before ++ r.entry :: after)))
    (hold : worker.accepts w.settings r.old = true) (hnew : worker.accepts w.settings r.new = true)
    (hindexed : w.index.record? r.old ≠ none) (content : List Char) (chunks : List Chunk)
    (hread : w.files.readText r.new = .ok content)
    (hcut : Chunk.ofFile splitter r.new content = .ok chunks) :
    let others := (before ++ Git.trimLast after).map Git.Entry.change
    let index := (w.cycle false worker).2.index
    (∃ next, (w.cycle false worker).1 = .ok next) ∧
    (index.record? r.old = none ∧ index.chunksOf r.old = [] ↔
      Change.lastStatus? r.old others = some .deleted ∨
        w.files.exists? r.old = false ∧ ⟨r.old, .deleted⟩ ∈ others) ∧
    (index.isCurrent r.new (textDigest content) = true ∧ index.chunksOf r.new = chunks ↔
      Change.lastStatus? r.new others ≠ some .deleted ∧
        (Change.lastStatus? r.new others = none →
          w.index.isCurrent r.new (textDigest content) = true)) ∧
    ∀ path, path = r.old ∨ path = r.new → (∀ change ∈ others, change.path ≠ path) →
      Index.SameFile path w.index index := by
  intro others index
  obtain ⟨hwithin, hcoherent⟩ := h.coherent
  have hsplitter : w.indexer.splitter = splitter :=
    (splitter_of_faultless hfaults).trans hwithin.splitter
  subst hsplitter
  have hfaultless := indexer_faultless hfaults
  obtain ⟨change, ⟨hne_old, hne_new⟩, hread_back⟩ := r.exists_change before after
  let changes := before.map Git.Entry.change ++ change :: (Git.trimLast after).map Git.Entry.change
  have hchanges : Git.changesSince w.files.paths worker.lastCommit w.diff = .ok changes := by
    rw [Git.changesSince_of_not_scans hcompares, hreport, String.toList_ofList,
      Git.changesOf_nameStatus, hread_back]
  have hothers : others =
      before.map Git.Entry.change ++ (Git.trimLast after).map Git.Entry.change :=
    List.map_append
  have hmem (named : Change) : named ∈ changes ↔ named = change ∨ named ∈ others := by
    rw [hothers, List.mem_append, List.mem_append, List.mem_cons, or_left_comm]
  obtain ⟨hnext, summaries, summaryStore, hindex⟩ :=
    cycle_of_faultless hfaults false worker hchanges
  refine ⟨hnext, ?_, ?_, ?_⟩
  · have hforgotten :=
      hcoherent.forgotten_foldl_iff hfaultless hwithin.texts hold hindexed changes
    rw [Change.lastStatus?_append_cons hne_old, ← hothers] at hforgotten
    have hne : (⟨r.old, .deleted⟩ : Change) ≠ change := fun heq => hne_old (heq ▸ rfl)
    rw [hmem, or_iff_right hne] at hforgotten
    simp only [index, hindex]
    exact hforgotten
  · have hcurrent := hcoherent.indexed_foldl_iff hfaultless hwithin.texts hinj hread hnew hcut changes
    rw [Change.lastStatus?_append_cons hne_new, ← hothers] at hcurrent
    simp only [index, hindex]
    exact hcurrent
  · intro path hpath hunnamed
    have horderly : w.Orderly := ⟨hwithin.answer, hcoherent.wellFormed⟩
    refine horderly.cycle_sameFile false worker ?_
    intro learned hlearned named hnamed
    obtain rfl := Except.ok.inj (hlearned.symm.trans hchanges)
    rcases (hmem named).mp hnamed with rfl | hother
    · rcases hpath with rfl | rfl
      · exact Ne.symm hne_old
      · exact Ne.symm hne_new
    · exact Ne.symm (hunnamed named hother)

/-- A rename stands between a line that deletes the old path and one that adds the new path, which
loses the blank at its end. -/
theorem rename_is_followed_by_other_lines :
    let first : Workspace :=
      { files := { contents := [("a.py", [120])] }, window := ⟨2, 0⟩, analyzer := none }
    let second : Workspace :=
      { (first.indexFile "a.py").2 with
        files := { contents := [("b.py", [120])] }
        diff := { output := "D\ta.py\nR100\ta.py\tb.py\nA\tb.py \n" } }
    let worker : Worker := { rules := none, suffixes := [".py"], lastCommit := some "c" }
    let index := (second.cycle false worker).2.index
    second.index.record? "a.py" ≠ none ∧ second.index.record? "b.py" = none ∧
      (index.record? "a.py" = none ∧ index.chunksOf "a.py" = []) ∧
      ∃ chunks, Chunk.ofFile first.splitter "b.py" "x".toList = .ok chunks ∧
        index.isCurrent "b.py" (textDigest "x".toList) = true ∧ index.chunksOf "b.py" = chunks := by
  intro first second worker index
  let contents : Set (List Char) := { text | text = "x".toList }
  have hinj : Set.InjOn textDigest contents := by
    rintro _ rfl _ rfl _
    rfl
  have htexts (name : String) (path : String) (content : List Char)
      (hread : ({ contents := [(name, [120])] } : Files).readText path = .ok content) :
      content ∈ contents := by
    obtain ⟨entry, member, known, hknown, rfl⟩ := Files.mem_contents_of_readText hread
    rw [List.mem_singleton.mp member] at hknown
    obtain rfl := Except.ok.inj hknown
    rfl
  have hfirst : Reached (Within first.splitter contents) first :=
    .empty rfl ⟨rfl, rfl, htexts "a.py"⟩
  have hsecond : Reached (Within first.splitter contents) second :=
    .surroundings (hfirst.indexFile "a.py") rfl ⟨rfl, rfl, htexts "b.py"⟩
  let rename : Git.Rename := ⟨"100".toList, "a.py", "b.py", rfl, rfl, rfl⟩
  let deletion : Git.Entry := ⟨['D'], "a.py", rfl, rfl⟩
  let addition : Git.Entry := ⟨['A'], "b.py ", rfl, rfl⟩
  have hcompares : ¬Git.Scans worker.lastCommit second.diff := by
    rintro (hbase | hcode)
    · cases hbase
    · exact hcode rfl
  have hindexed : second.index.record? "a.py" ≠ none := by decide +kernel
  have hread : second.files.readText "b.py" = .ok "x".toList := rfl
  obtain ⟨-, hold, hnew, -⟩ := rename_is_followed_iff hsecond hinj rfl worker hcompares
    [deletion] [addition] rename (by decide +kernel) (by decide +kernel) (by decide +kernel)
    hindexed "x".toList _ hread rfl
  exact ⟨hindexed, by decide +kernel, hold.mpr (by decide +kernel), _, rfl,
    hnew.mpr (by decide +kernel)⟩

/-- A rename that stands alone leaves the old path indexed and the new path out of the index. -/
theorem lone_rename_is_not_followed :
    let first : Workspace :=
      { files := { contents := [("a.py", [120])] }, window := ⟨2, 0⟩, analyzer := none }
    let second : Workspace :=
      { (first.indexFile "a.py").2 with
        files := { contents := [("b.py", [120])] }
        diff := { output := "R100\ta.py\tb.py\n" } }
    let worker : Worker := { rules := none, suffixes := [".py"], lastCommit := some "c" }
    let index := (second.cycle false worker).2.index
    worker.accepts second.settings "a.py" = true ∧ worker.accepts second.settings "b.py" = true ∧
      second.files.exists? "a.py" = false ∧
      ((index.record? "a.py").map Record.status = some .completed ∧
        (index.chunksOf "a.py").length = 1) ∧
      index.record? "b.py" = none ∧ index.chunksOf "b.py" = [] := by
  decide +kernel

end Workspace

end CodeIndex
