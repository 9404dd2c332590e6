import CodeIndex.Chunk.Window
import CodeIndex.Proofs.Coherence
import CodeIndex.Proofs.Cycle

/-!
A full cycle in which nothing fails agrees with a rebuild from an empty index.

Whatever a run has left of a file, be it a record of a failure, the digest of an older text or rows
with numbers that are given for a second time, an attempt to index the file settles what the index
holds of it. The work is spared only for a record that is completed, and coherence says that such a
record is right about the chunks, as long as no two texts share a digest.
-/

namespace CodeIndex

/-- Whether a text can be cut depends on its language alone. -/
def Splitter.IsUniform (contents : Set (List Char)) (splitter : Splitter) : Prop :=
  ∀ language, ∀ text ∈ contents, ∀ other ∈ contents,
    (∃ pieces, splitter language text = .ok pieces) → ∃ pieces, splitter language other = .ok pieces

/-- A window fails for the numbers it has been given, not for a text. -/
private theorem Window.splitter_isUniform (window : Window) (given : Option (List (List Char)))
    (contents : Set (List Char)) : (window.splitter given).IsUniform contents := by
  intro language text _ other _ hcut
  unfold Window.splitter at hcut ⊢
  split
  · simp_all
  · exact ⟨_, rfl⟩

private theorem Chunk.ofFile_eq_ok_iff {splitter : Splitter} {path : String} {content : List Char} :
    (∃ chunks, Chunk.ofFile splitter path content = .ok chunks) ↔
      ∃ pieces, splitter (Language.ofPath? path) content = .ok pieces := by
  unfold Chunk.ofFile
  cases splitter (Language.ofPath? path) content with
  | error failure => simp [Except.map]
  | ok pieces => simp [Except.map]

namespace Index

/-- The index holds what the text of a file gives: its chunks with a record that is current, or a
record of a failure. -/
def Settled (splitter : Splitter) (path : String) (content : List Char) (idx : Index) : Prop :=
  match Chunk.ofFile splitter path content with
  | .ok chunks => idx.isCurrent path (textDigest content) = true ∧ idx.chunksOf path = chunks
  | .error _ => (∃ r, idx.record? path = some r ∧ r.status = .failed) ∧ idx.chunksOf path = []

variable {splitter : Splitter} {contents : Set (List Char)} {indexer : Indexer} {files : Files}
  {accepts : String → Bool} {path : String} {content : List Char} {idx after : Index}

private theorem Settled.congr (h : idx.Settled splitter path content)
    (hrecord : after.record? path = idx.record? path)
    (hchunks : after.chunksOf path = idx.chunksOf path) :
    after.Settled splitter path content := by
  unfold Settled isCurrent at h ⊢
  rwa [hrecord, hchunks]

/-- A record that spares the work is right about the chunks. -/
theorem Coherent.ofFile_of_isCurrent (h : Coherent splitter contents idx)
    (hinj : Set.InjOn textDigest contents) (hcontent : content ∈ contents)
    (hcurrent : idx.isCurrent path (textDigest content) = true) :
    Chunk.ofFile splitter path content = .ok (idx.chunksOf path) := by
  obtain ⟨r, hrecord, hdigest, hcompleted⟩ := isCurrent_eq_true_iff.mp hcurrent
  obtain ⟨known, hknown, chunks, hsame, hcut, hchunks, -⟩ :=
    (h.files path).completed r hrecord hcompleted
  have hequal : known = content := hinj hknown hcontent (hsame.trans hdigest)
  rw [hchunks, ← hequal]
  exact hcut

/-- An attempt to index a file settles what the index holds of it, whatever that was. -/
theorem Coherent.indexFile_settled (h : Coherent indexer.splitter contents idx)
    (hinj : Set.InjOn textDigest contents) (hcontent : content ∈ contents)
    (hfaultless : indexer.IsFaultless) (hread : files.readText path = .ok content) :
    (idx.indexFile indexer files path).index.Settled indexer.splitter path content := by
  have hspared : idx.isCurrent path (textDigest content) = true →
      Chunk.ofFile indexer.splitter path content = .ok (idx.chunksOf path) :=
    h.ofFile_of_isCurrent hinj hcontent
  unfold Settled
  cases hcut : Chunk.ofFile indexer.splitter path content with
  | ok chunks =>
      refine h.wellFormed.indexFile_completed hfaultless hread hcut fun hcurrent => ?_
      have hsame := hspared hcurrent
      rw [hcut] at hsame
      cases hsame
      rfl
  | error failure =>
      -- A text that cannot be cut has no completed record, so the work is not spared.
      have hstale : idx.isCurrent path (textDigest content) = false := by
        apply Bool.eq_false_iff.mpr
        intro hcurrent
        have hsame := hspared hcurrent
        rw [hcut] at hsame
        cases hsame
      exact h.wellFormed.indexFile_failed hfaultless hread hcut hstale

theorem Coherent.applyChange (h : Coherent indexer.splitter contents idx)
    (hfaultless : indexer.IsFaultless)
    (htexts : ∀ path content, files.readText path = .ok content → content ∈ contents)
    (change : Change) :
    Coherent indexer.splitter contents (idx.applyChange indexer files accepts change) := by
  have hdefinite := hfaultless.definite
  unfold Index.applyChange
  split
  · rcases idx.afterDelete_cases indexer.nameable change.path with heq | heq
    · rw [heq]
      exact h.eraseFile change.path
    · rwa [heq]
  · split
    · exact h.indexFile hdefinite htexts (fun _ _ _ hcut => hcut) change.path
    · exact h

/-- A file is settled once one of the changes is about it, and stays so. -/
private theorem Coherent.foldl_applyChange_settled (h : Coherent indexer.splitter contents idx)
    (hinj : Set.InjOn textDigest contents) (hfaultless : indexer.IsFaultless)
    (htexts : ∀ path content, files.readText path = .ok content → content ∈ contents)
    (hread : files.readText path = .ok content) (haccepts : accepts path = true)
    (changes : List Change) (hkept : ∀ change ∈ changes, change.status ≠ .deleted)
    (hpath : idx.Settled indexer.splitter path content ∨ ∃ change ∈ changes, change.path = path) :
    let after := changes.foldl (Index.applyChange indexer files accepts) idx
    Coherent indexer.splitter contents after ∧ after.Settled indexer.splitter path content := by
  induction changes generalizing idx with
  | nil =>
      rcases hpath with hsettled | ⟨_, hnone, -⟩
      · exact ⟨h, hsettled⟩
      · cases hnone
  | cons change rest ih =>
      have hlater : ∀ later ∈ rest, later.status ≠ .deleted :=
        fun later member => hkept later (List.mem_cons_of_mem _ member)
      refine ih (h.applyChange hfaultless htexts change) hlater ?_
      by_cases hchange : change.path = path
      · refine Or.inl ?_
        simp only [Index.applyChange, hkept change (by simp), hchange, haccepts, ↓reduceIte]
        exact h.indexFile_settled hinj (htexts path content hread) hfaultless hread
      · have hdefinite := hfaultless.definite
        have hsame : SameBut change.path idx (idx.applyChange indexer files accepts change) :=
          h.wellFormed.applyChange_sameBut hdefinite change
        have hother : path ≠ change.path := fun heq => hchange heq.symm
        refine hpath.imp ?_ ?_
        · exact fun hsettled =>
            hsettled.congr (hsame.record?_eq hother) (hsame.chunksOf_eq hother)
        · rintro ⟨later, member, hlater⟩
          rcases List.mem_cons.mp member with rfl | htail
          · exact absurd hlater hchange
          · exact ⟨later, htail, hlater⟩

private theorem FileCoherent.record_of_isCurrent {digest : String}
    (h : FileCoherent splitter contents path idx) (hcurrent : idx.isCurrent path digest = true) :
    ∃ r, idx.record? path = some r ∧ r.status = .completed ∧ r.digest = digest ∧
      r.chunkCount = (idx.chunksOf path).length := by
  obtain ⟨r, hrecord, hdigest, hcompleted⟩ := isCurrent_eq_true_iff.mp hcurrent
  obtain ⟨_, _, _, -, -, hchunks, hcount⟩ := h.completed r hrecord hcompleted
  rw [← hchunks] at hcount
  exact ⟨r, hrecord, hcompleted, hdigest, hcount⟩

/-- Where no text of the language can be cut, no record has a digest. -/
private theorem FileCoherent.digest_eq_empty {failure : CutFailure} {r : Record}
    (h : FileCoherent splitter contents path idx) (hcontent : content ∈ contents)
    (hcut : Chunk.ofFile splitter path content = .error failure)
    (huniform : splitter.IsUniform contents) (hrecord : idx.record? path = some r) :
    r.digest = "" := by
  refine (h.digest r hrecord).resolve_right ?_
  rintro ⟨known, hknown, chunks, -, hcutKnown⟩
  have hpieces := Chunk.ofFile_eq_ok_iff.mp ⟨chunks, hcutKnown⟩
  obtain ⟨chunks, hagain⟩ :=
    Chunk.ofFile_eq_ok_iff.mpr (huniform _ known hknown content hcontent hpieces)
  rw [hcut] at hagain
  cases hagain

/-- What a settled file looks like in a coherent index does not depend on the index, but for the
digest that a failure keeps of an older text. -/
private theorem Settled.agree {other : Index} (hcontent : content ∈ contents)
    (h₁ : idx.Settled splitter path content) (hfile₁ : FileCoherent splitter contents path idx)
    (h₂ : other.Settled splitter path content)
    (hfile₂ : FileCoherent splitter contents path other) :
    ∃ r s, idx.record? path = some r ∧ other.record? path = some s ∧ r.status = s.status ∧
      (r.status = .completed ↔ ∃ chunks, Chunk.ofFile splitter path content = .ok chunks) ∧
      (r.status = .completed ∨ splitter.IsUniform contents → r.digest = s.digest) ∧
      (r.status = .completed → r.chunkCount = s.chunkCount) ∧
      idx.chunksOf path = other.chunksOf path := by
  unfold Settled at h₁ h₂
  cases hcut : Chunk.ofFile splitter path content with
  | ok chunks =>
      simp only [hcut] at h₁ h₂
      obtain ⟨r, hr, hstatus₁, hdigest₁, hcount₁⟩ := hfile₁.record_of_isCurrent h₁.1
      obtain ⟨s, hs, hstatus₂, hdigest₂, hcount₂⟩ := hfile₂.record_of_isCurrent h₂.1
      have hchunks := h₁.2.trans h₂.2.symm
      rw [hchunks] at hcount₁
      exact ⟨r, s, hr, hs, hstatus₁.trans hstatus₂.symm, ⟨fun _ => ⟨chunks, rfl⟩, fun _ => hstatus₁⟩,
        fun _ => hdigest₁.trans hdigest₂.symm, fun _ => hcount₁.trans hcount₂.symm, hchunks⟩
  | error failure =>
      simp only [hcut] at h₁ h₂
      obtain ⟨⟨r, hr, hstatus₁⟩, hchunks₁⟩ := h₁
      obtain ⟨⟨s, hs, hstatus₂⟩, hchunks₂⟩ := h₂
      have hfailed : r.status ≠ .completed := by
        rw [hstatus₁]
        decide
      refine ⟨r, s, hr, hs, hstatus₁.trans hstatus₂.symm, by simp [hfailed], ?_, ?_,
        hchunks₁.trans hchunks₂.symm⟩
      · intro hcause
        have huniform := hcause.resolve_left hfailed
        rw [hfile₁.digest_eq_empty hcontent hcut huniform hr,
          hfile₂.digest_eq_empty hcontent hcut huniform hs]
      · exact fun hcompleted => absurd hcompleted hfailed

end Index

namespace Workspace

variable {splitter : Splitter} {contents : Set (List Char)}

/-- A full cycle settles every accepted file that can be read. -/
private theorem full_cycle_settles {w : Workspace} (hwithin : w.Within splitter contents)
    (h : w.index.Coherent splitter contents) (hinj : Set.InjOn textDigest contents)
    (hfaults : w.faults = {}) (worker : Worker) {path : String} {content : List Char}
    (hpath : path ∈ w.files.paths) (haccepts : worker.accepts w.settings path = true)
    (hread : w.files.readText path = .ok content) :
    (w.cycle true worker).2.index.Coherent splitter contents ∧
      (w.cycle true worker).2.index.Settled splitter path content := by
  have hsplitter : w.indexer.splitter = splitter :=
    (splitter_of_faultless hfaults).trans hwithin.splitter
  subst hsplitter
  obtain ⟨-, summaries, summaryStore, hindex⟩ := cycle_of_faultless hfaults true worker rfl
  have hfold := h.foldl_applyChange_settled hinj (indexer_faultless hfaults) hwithin.texts
    hread haccepts (w.files.paths.map fun path => ⟨path, .added⟩) (by simp)
    (Or.inr ⟨⟨path, .added⟩, List.mem_map_of_mem hpath, rfl⟩)
  rw [hindex]
  refine ⟨⟨⟨hfold.1.wellFormed.store, hfold.1.wellFormed.unique⟩, fun path => ?_⟩, hfold.2⟩
  exact (hfold.1.files path).congr rfl rfl

/-- After any run, a full cycle without faults leaves every accepted file that can be read with the
status, digest, number of chunks and chunks of a rebuild from an empty index, and completed if its
text can be cut. Only a splitter that fails for one text of a language and not for another could
leave a record of a failure with the digest of an older text. -/
theorem full_cycle_agrees_with_rebuild (w : Workspace)
    (h : Reached (Within splitter contents) w) (hinj : Set.InjOn textDigest contents)
    (hfaults : w.faults = {}) (worker : Worker) (path : String) (content : List Char)
    (hpath : path ∈ w.files.paths) (haccepts : worker.accepts w.settings path = true)
    (hread : w.files.readText path = .ok content) :
    let after := (w.cycle true worker).2.index
    let rebuilt := (({ w with index := {} } : Workspace).cycle true worker).2.index
    ∃ r s, after.record? path = some r ∧ rebuilt.record? path = some s ∧ r.status = s.status ∧
      (r.status = .completed ↔ ∃ chunks, Chunk.ofFile splitter path content = .ok chunks) ∧
      (r.status = .completed ∨ splitter.IsUniform contents → r.digest = s.digest) ∧
      (r.status = .completed → r.chunkCount = s.chunkCount) ∧
      after.chunksOf path = rebuilt.chunksOf path := by
  obtain ⟨hwithin, hcoherent⟩ := h.coherent
  have hempty : ({ w with index := {} } : Workspace).Within splitter contents :=
    ⟨hwithin.splitter, hwithin.answer, hwithin.texts⟩
  have hafter := full_cycle_settles hwithin hcoherent hinj hfaults worker hpath haccepts hread
  have hrebuilt := full_cycle_settles hempty Index.coherent_empty hinj hfaults worker hpath haccepts
    hread
  exact Index.Settled.agree (hwithin.texts path content hread) hafter.2 (hafter.1.files path)
    hrebuilt.2 (hrebuilt.1.files path)

/-- A file is indexed, changed while the table of chunks fails, and changed back: its record then
has the digest of the text but no chunks. -/
theorem full_cycle_agrees_with_rebuild_after_failure :
    let first : Workspace :=
      { files := { contents := [("a.py", [120, 61, 49])] }, window := ⟨2, 0⟩, analyzer := none }
    let failing : Workspace :=
      { (first.indexFile "a.py").2 with
        files := { contents := [("a.py", [121])] }
        faults := { insert := some "full" } }
    let healed : Workspace :=
      { (failing.indexFile "a.py").2 with files := first.files, faults := {} }
    let worker : Worker := { rules := none, suffixes := [".py"] }
    let after := (healed.cycle true worker).2.index
    let rebuilt := (({ healed with index := {} } : Workspace).cycle true worker).2.index
    healed.index.record? "a.py" = some
        { path := "a.py", digest := textDigest "x=1".toList, status := .failed, chunkCount := 2,
          error := some "full", indexed := true } ∧
      ∃ r s, after.record? "a.py" = some r ∧ rebuilt.record? "a.py" = some s ∧
        r.status = s.status ∧ r.digest = s.digest ∧
        after.chunksOf "a.py" = rebuilt.chunksOf "a.py" := by
  intro first failing healed worker after rebuilt
  let contents : Set (List Char) := { text | text = "x=1".toList ∨ text = "y".toList }
  have hinj : Set.InjOn textDigest contents := by
    have hne : textDigest "x=1".toList ≠ textDigest "y".toList := by decide +kernel
    rintro a (rfl | rfl) b (rfl | rfl) hdigest
    · rfl
    · exact absurd hdigest hne
    · exact absurd hdigest.symm hne
    · rfl
  have htexts (bytes : List UInt8) (text : List Char) (hdecode : Text.Utf8.decode bytes = .ok text)
      (hmem : Text.unixLines text ∈ contents) (path : String) (content : List Char)
      (hread : ({ contents := [("a.py", bytes)] } : Files).readText path = .ok content) :
      content ∈ contents := by
    obtain ⟨entry, member, known, hknown, rfl⟩ := Files.mem_contents_of_readText hread
    rw [List.mem_singleton.mp member, hdecode] at hknown
    cases hknown
    exact hmem
  have hfirst : Reached (Within first.splitter contents) first :=
    .empty rfl ⟨rfl, rfl, htexts [120, 61, 49] _ rfl (Or.inl rfl)⟩
  have hfailing : Reached (Within first.splitter contents) failing :=
    (hfirst.indexFile "a.py").changed _ _ rfl (htexts [121] _ rfl (Or.inr rfl))
  have hhealed : Reached (Within first.splitter contents) healed :=
    (hfailing.indexFile "a.py").changed _ _ rfl (htexts [120, 61, 49] _ rfl (Or.inl rfl))
  refine ⟨by decide +kernel, ?_⟩
  have huniform := Window.splitter_isUniform ⟨2, 0⟩ none contents
  obtain ⟨r, s, hr, hs, hstatus, -, hdigest, -, hchunks⟩ :=
    full_cycle_agrees_with_rebuild healed hhealed hinj rfl worker "a.py" "x=1".toList (by decide)
      (by decide +kernel) rfl
  exact ⟨r, s, hr, hs, hstatus, hdigest (Or.inr huniform), hchunks⟩

end Workspace

end CodeIndex
