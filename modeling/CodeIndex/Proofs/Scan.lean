import CodeIndex.Proofs.Changes

/-!
What a scan leaves in the index.

A full cycle, and one whose comparison fails, count every file that is there as added, and so never
learn that a file is gone. The records and chunks of files that are gone stay as they were, so the
index is free of them after the cycle exactly if it was before.
-/

namespace CodeIndex

namespace Index

def Listed (path : String) (idx : Index) : Prop :=
  (∃ r ∈ idx.records.values, r.path = path) ∨
    ∃ c ∈ idx.chunkStore.chunks.values, c.filePath = path

variable {path : String} {idx after : Index}

private theorem listed_iff :
    idx.Listed path ↔ idx.record? path ≠ none ∨ idx.chunksOf path ≠ [] := by
  have hrecord : (∃ r ∈ idx.records.values, r.path = path) ↔ idx.record? path ≠ none := by
    simp [record?_eq_none_iff]
  have hchunks : (∃ c ∈ idx.chunkStore.chunks.values, c.filePath = path) ↔
      idx.chunksOf path ≠ [] := by
    simp [chunksOf, ChunkStore.chunksOf]
  unfold Listed
  rw [hrecord, hchunks]

private theorem SameFile.listed_iff (h : SameFile path idx after) :
    after.Listed path ↔ idx.Listed path := by
  rw [Index.listed_iff, Index.listed_iff, h.record, h.chunks]

end Index

namespace Workspace

/-- After any run, a cycle that scans the files leaves the records and chunks of all files that are
not there as they were. So it leaves none exactly if there was none before. -/
theorem scan_leaves_only_present_files_iff (w : Workspace) (h : Reached Lists w) (full : Bool)
    (worker : Worker) (hscan : Git.Scans (if full then none else worker.lastCommit) w.diff) :
    let after := (w.cycle full worker).2.index
    (w.cycle full worker).1 = .ok { worker with lastCommit := Git.currentCommit w.head } ∧
    ((∀ path, after.Listed path → path ∈ w.files.paths) ↔
      ∀ path, w.index.Listed path → path ∈ w.files.paths) ∧
    ∀ path, path ∉ w.files.paths → Index.SameFile path w.index after := by
  intro after
  let changes : List Change := w.files.paths.map fun path => ⟨path, .added⟩
  have hlearned : w.learned full worker = .ok changes := hscan.changesSince w.files.paths
  have hunrefused : (w.asked full worker).Unrefused worker changes :=
    unrefused_of_kept worker (by simp [changes]) _
  have hsame : ∀ path, path ∉ w.files.paths → Index.SameFile path w.index after := by
    intro path habsent
    refine h.orderly.cycle_sameFile full worker ?_
    intro found hfound change member heq
    rw [hlearned] at hfound
    cases hfound
    obtain ⟨present, hpresent, rfl⟩ := List.mem_map.mp member
    exact habsent (heq ▸ hpresent)
  refine ⟨cycle_result_of_unrefused hlearned hunrefused, ?_, hsame⟩
  constructor
  · intro hafter path hlisted
    apply Decidable.byContradiction
    intro habsent
    exact habsent (hafter path ((hsame path habsent).listed_iff.mpr hlisted))
  · intro hbefore path hlisted
    apply Decidable.byContradiction
    intro habsent
    exact habsent (hbefore path ((hsame path habsent).listed_iff.mp hlisted))

/-- Of two files that are indexed, one is deleted and the other one changed. The comparison with the
last commit fails, and the scan in its place leaves the index with the file that is there. -/
theorem scan_leaves_only_present_files_after_deletion :
    let first : Workspace :=
      { files := { contents := [("a.py", [120]), ("b.py", [121])] }
        window := ⟨40, 10⟩
        analyzer := none
        summarizes := false }
    let worker : Worker := { rules := none, suffixes := [".py"], lastCommit := some "c" }
    let w : Workspace :=
      { ((first.cycle true worker).2.deleteFile "a.py").2 with
        files := { contents := [("b.py", [122])] }
        diff := { code := 128 } }
    let after := (w.cycle false worker).2.index
    after.chunkStore.chunks.values.map Chunk.content = ["z"] ∧
      ∀ path, after.Listed path → path ∈ ["b.py"] := by
  intro first worker w after
  have hfirst : Reached Lists first := .empty rfl rfl
  have hreached : Reached Lists w :=
    .surroundings ((hfirst.cycle true worker).deleteFile "a.py") rfl rfl
  have hbefore : ∀ path, w.index.Listed path → path ∈ w.files.paths := by
    have hrecords : ∀ r ∈ w.index.records.values, r.path ∈ w.files.paths := by decide +kernel
    have hchunks : ∀ c ∈ w.index.chunkStore.chunks.values, c.filePath ∈ w.files.paths := by
      decide +kernel
    rintro path (⟨r, member, rfl⟩ | ⟨c, member, rfl⟩)
    · exact hrecords r member
    · exact hchunks c member
  have hscan : Git.Scans worker.lastCommit w.diff := Or.inr (by decide)
  exact ⟨by decide +kernel,
    (scan_leaves_only_present_files_iff w hreached false worker hscan).2.1.mpr hbefore⟩

/-- A file is indexed and then removed. The next full cycle leaves its record and its chunk. -/
theorem scan_leaves_removed_file :
    let first : Workspace :=
      { files := { contents := [("a.py", [120]), ("b.py", [121])] }
        window := ⟨40, 10⟩
        analyzer := none
        summarizes := false }
    let worker : Worker := { rules := none, suffixes := [".py"] }
    let w : Workspace :=
      { (first.cycle true worker).2 with files := { contents := [("b.py", [121])] } }
    let after := (w.cycle true worker).2.index
    w.files.paths = ["b.py"] ∧
      after.records.values.map (fun r => (r.path, r.status)) =
        [("a.py", .completed), ("b.py", .completed)] ∧
      after.chunkStore.chunks.values.map (fun c => (c.filePath, c.content)) =
        [("a.py", "x"), ("b.py", "y")] := by
  decide +kernel

end Workspace

end CodeIndex
