import CodeIndex.Proofs.ChunkStore

/-!
Which rows of a store belong to which file, whatever its table of texts answers.

The chunk store and the summary store both keep texts in one table, and in a second one the files
that the rows belong to. A table of texts that takes texts in without giving their numbers leaves
rows that belong to no file. But no row ever belongs to another file than that of its text: this is
`Owned`. So a step of a store that erases the rows of a file, or puts in rows of it, is `Confined`
to the file: the rows of all other files stay in both tables, with their numbers.
-/

namespace CodeIndex

namespace Table

variable {α : Type} {file : α → String} {t : Table α} {owners : Table String} {path : String}

/-- The rows that belong to a file have texts of that file, and stand in the same order in both
tables. There may be rows that belong to no file. -/
structure Owned (file : α → String) (t : Table α) (owners : Table String) : Prop where
  ascending : t.Ascending
  owners : owners.rows.Sublist (t.map file).rows

theorem owned_empty : Owned file {} {} :=
  ⟨ascending_empty, List.Sublist.refl _⟩

private theorem Owned.exists_row (h : Owned file t owners) {owner : Nat × String}
    (member : owner ∈ owners.rows) : ∃ row ∈ t.rows, row.1 = owner.1 ∧ file row.2 = owner.2 := by
  obtain ⟨row, hrow, heq⟩ := List.mem_map.mp (h.owners.subset member)
  rw [← heq]
  exact ⟨row, hrow, rfl, rfl⟩

private theorem Owned.file_of_mem_idsWhere (h : Owned file t owners) {row : Nat × α}
    (hrow : row ∈ t.rows) (hid : row.1 ∈ owners.idsWhere (· == path)) : file row.2 = path := by
  obtain ⟨owner, member, hsame⟩ := List.mem_map.mp hid
  obtain ⟨howner, hpath⟩ := List.mem_filter.mp member
  obtain ⟨found, hfound, hnumber, hfile⟩ := h.exists_row howner
  rw [← h.ascending.eq_of_fst_eq found row hfound hrow (hnumber.trans hsame), hfile]
  exact eq_of_beq hpath

private theorem Owned.mem_idsWhere_iff (h : Owned file t owners) {owner : Nat × String}
    (member : owner ∈ owners.rows) : owner.1 ∈ owners.idsWhere (· == path) ↔ owner.2 = path := by
  constructor
  · intro hid
    obtain ⟨row, hrow, hnumber, hfile⟩ := h.exists_row member
    rw [← hnumber] at hid
    exact hfile.symm.trans (h.file_of_mem_idsWhere hrow hid)
  · intro hpath
    exact List.mem_map.mpr ⟨owner, List.mem_filter.mpr ⟨member, beq_iff_eq.mpr hpath⟩, rfl⟩

/-- No row that is yet to come belongs to a file. -/
theorem Owned.lt_nextId (h : Owned file t owners) (owner : Nat × String)
    (member : owner ∈ owners.rows) : owner.1 < t.nextId := by
  obtain ⟨row, hrow, hnumber, -⟩ := h.exists_row member
  rw [← hnumber]
  exact t.lt_nextId row hrow

/-- A step of a store within the rows of one file: the rows of all other files are the same in both
tables, and rows still belong to the files of their texts. -/
structure Confined (file : α → String) (path : String) (t : Table α) (owners : Table String)
    (after : Table α) (ownersAfter : Table String) : Prop where
  owned : Owned file after ownersAfter
  rows : after.eraseWhere (fun a => file a == path) = t.eraseWhere fun a => file a == path
  owners : ownersAfter.eraseWhere (· == path) = owners.eraseWhere (· == path)

theorem Owned.confined (h : Owned file t owners) (path : String) :
    Confined file path t owners t owners :=
  ⟨h, rfl, rfl⟩

theorem Confined.trans {s u : Table α} {ownersS ownersU : Table String}
    (h₁ : Confined file path t owners s ownersS) (h₂ : Confined file path s ownersS u ownersU) :
    Confined file path t owners u ownersU :=
  ⟨h₂.owned, h₂.rows.trans h₁.rows, h₂.owners.trans h₁.owners⟩

/-- The rows that belong to a file are erased from both tables. -/
private theorem Owned.erase_confined (h : Owned file t owners) (path : String) :
    Confined file path t owners (t.eraseIds (owners.idsWhere (· == path)))
      (owners.eraseWhere (· == path)) := by
  have howners : owners.rows.filter (fun owner => !(owner.2 == path)) =
      owners.rows.filter fun owner => !(owners.idsWhere (· == path)).contains owner.1 := by
    apply List.filter_congr
    intro owner member
    rw [Bool.eq_iff_iff]
    simp [h.mem_idsWhere_iff member]
  have hrows : ((t.eraseIds (owners.idsWhere (· == path))).map file).rows =
      (t.map file).rows.filter fun row => !(owners.idsWhere (· == path)).contains row.1 := by
    simp [eraseIds, map, List.filter_map, Function.comp_def]
  refine ⟨⟨List.Pairwise.filter _ h.ascending, ?_⟩, ?_, eraseWhere_eraseWhere owners _⟩
  · rw [hrows, eraseWhere, howners]
    exact h.owners.filter _
  · apply eq_of_rows_eq
    simp only [eraseWhere, eraseIds, List.filter_filter]
    apply List.filter_congr
    intro row hrow
    by_cases hid : row.1 ∈ owners.idsWhere (· == path)
    · simp [h.file_of_mem_idsWhere hrow hid]
    · simp [hid]

variable {as : List α}

/-- Texts of a file are put in, in rows that belong to no file. -/
private theorem Owned.insertAll_confined (h : Owned file t owners)
    (hfile : ∀ a ∈ as, file a = path) :
    Confined file path t owners (t.insertAll as) owners := by
  refine ⟨⟨h.ascending.insertAll as, ?_⟩, ?_, rfl⟩
  · rw [map_insertAll]
    exact h.owners.trans (List.sublist_append_left _ _)
  · exact t.eraseWhere_insertAll _ as fun a member => beq_iff_eq.mpr (hfile a member)

/-- Texts of a file are put in, in rows that belong to the file. -/
private theorem Owned.own_confined (h : Owned file t owners) (hfile : ∀ a ∈ as, file a = path) :
    Confined file path t owners (t.insertAll as)
      (ChunkStore.own path (t.nextIds as.length) owners) := by
  have hrows : (ChunkStore.own path (t.nextIds as.length) owners).rows =
      owners.rows ++ (t.nextIds as.length).map fun id => (id, path) :=
    ChunkStore.rows_own path t.nextId as.length owners h.lt_nextId
  refine ⟨⟨h.ascending.insertAll as, ?_⟩, (h.insertAll_confined hfile).rows, ?_⟩
  · rw [hrows, map_insertAll, t.nextIds_zip_const file hfile]
    exact h.owners.append (List.Sublist.refl _)
  · apply eq_of_rows_eq
    simp only [eraseWhere, hrows, List.filter_append]
    simp

end Table

namespace ChunkStore

variable {s : ChunkStore} {path : String}

def Owned (s : ChunkStore) : Prop :=
  s.chunks.Owned Chunk.filePath s.owners

def Confined (path : String) (s after : ChunkStore) : Prop :=
  Table.Confined Chunk.filePath path s.chunks s.owners after.chunks after.owners

theorem Owned.eraseFile (h : s.Owned) (path : String) : Confined path s (s.eraseFile path) :=
  h.erase_confined path

def stocked (path : String) (chunks : List Chunk) (s : ChunkStore) : ChunkStore :=
  { chunks := s.chunks.insertAll chunks
    owners := own path (s.chunks.nextIds chunks.length) s.owners }

variable {chunks : List Chunk}

/-- A table that lists the numbers of new rows has them written down for the file. -/
theorem add_listed (s : ChunkStore) (hfile : ∀ c ∈ chunks, c.filePath = path) :
    s.add .listed chunks = .ok (s.chunks.nextIds chunks.length, s.stocked path chunks) := by
  cases chunks with
  | nil =>
      rw [stocked, Table.insertAll_nil]
      rfl
  | cons first rest =>
      rw [← hfile first List.mem_cons_self]
      rfl

/-- Chunks of one file are put in, whatever the table answers. -/
theorem Owned.add (h : s.Owned) {insertion : Insertion} {ids : List Nat} {after : ChunkStore}
    (hfile : ∀ c ∈ chunks, c.filePath = path) (hadd : s.add insertion chunks = .ok (ids, after)) :
    Confined path s after := by
  have hstocked : Confined path s (s.stocked path chunks) := Table.Owned.own_confined h hfile
  have hnobody : Confined path s { s with chunks := s.chunks.insertAll chunks } :=
    Table.Owned.insertAll_confined h hfile
  cases insertion with
  | listed =>
      rw [s.add_listed hfile] at hadd
      cases hadd
      exact hstocked
  | sequenced | silent =>
      cases chunks with
      | nil =>
          cases hadd
          rwa [Table.insertAll_nil] at hnobody
      | cons first rest =>
          cases hadd
          exact hnobody
  | fails message =>
      cases chunks with
      | nil =>
          cases hadd
          rwa [Table.insertAll_nil] at hnobody
      | cons first rest => cases hadd

end ChunkStore

namespace SummaryStore

variable {s : SummaryStore} {path : String}

structure Owned (s : SummaryStore) : Prop where
  table : s.texts.Owned SummaryText.path s.owners
  single : s.owners.values.Nodup

structure Confined (path : String) (s after : SummaryStore) : Prop where
  table : Table.Confined SummaryText.path path s.texts s.owners after.texts after.owners
  single : after.owners.values.Nodup

theorem Confined.owned {after : SummaryStore} (h : Confined path s after) : after.Owned :=
  ⟨h.table.owned, h.single⟩

theorem Confined.trans {after last : SummaryStore} (h₁ : Confined path s after)
    (h₂ : Confined path after last) : Confined path s last :=
  ⟨h₁.table.trans h₂.table, h₂.single⟩

/-- The rows of a file are erased by one number, which is that of all its rows. -/
theorem eraseFile_eq (h : s.owners.values.Nodup) (path : String) :
    s.eraseFile path =
      { texts := s.texts.eraseIds (s.owners.idsWhere (· == path))
        owners := s.owners.eraseWhere (· == path) } := by
  have hfiles : ∀ owner ∈ s.owners.rows.filter (fun owner => owner.2 == path),
      owner.2 = path := by
    intro owner member
    exact eq_of_beq (List.mem_filter.mp member).2
  have hsingle : ((s.owners.rows.filter fun owner => owner.2 == path).map Prod.snd).Nodup :=
    h.sublist (List.filter_sublist.map Prod.snd)
  unfold eraseFile idOf? Table.idsWhere
  cases hrows : s.owners.rows.filter fun owner => owner.2 == path with
  | nil =>
      have hnone : s.owners.eraseWhere (· == path) = s.owners := by
        apply Table.eraseWhere_eq_self
        intro owner member
        obtain ⟨row, hrow, rfl⟩ := List.mem_map.mp member
        simpa using List.filter_eq_nil_iff.mp hrows row hrow
      simp [hnone, Table.eraseIds_nil]
  | cons first rest =>
      cases rest with
      | nil => rfl
      | cons second others =>
          rw [hrows] at hfiles hsingle
          have hfirst := hfiles first (by simp)
          have hsecond := hfiles second (by simp)
          simp [hfirst, hsecond] at hsingle

theorem Owned.eraseFile (h : s.Owned) (path : String) : Confined path s (s.eraseFile path) := by
  rw [eraseFile_eq h.single]
  refine ⟨h.table.erase_confined path, ?_⟩
  rw [Table.values_eraseWhere]
  exact h.single.filter _

def stocked (path text : String) (s : SummaryStore) : SummaryStore :=
  { texts := s.texts.insertAll [⟨path, text⟩]
    owners := ChunkStore.own path (s.texts.nextIds 1) s.owners }

/-- Once the old summary of a file is erased, no row belongs to the file. -/
private theorem Owned.not_mem_owners_eraseFile (h : s.Owned) (path : String) :
    path ∉ (s.eraseFile path).owners.values := by
  rw [eraseFile_eq h.single, Table.values_eraseWhere]
  simp

private theorem Owned.stocked (h : s.Owned) (text : String) (hnone : path ∉ s.owners.values) :
    Confined path s (s.stocked path text) := by
  have hfile : ∀ summary ∈ [(⟨path, text⟩ : SummaryText)], summary.path = path := by simp
  refine ⟨h.table.own_confined hfile, ?_⟩
  have hrows : (s.stocked path text).owners.rows = s.owners.rows ++ [(s.texts.nextId, path)] :=
    ChunkStore.rows_own path s.texts.nextId 1 s.owners h.table.lt_nextId
  have hvalues : (s.stocked path text).owners.values = s.owners.values ++ [path] := by
    simp [Table.values, hrows]
  rw [hvalues, List.nodup_append]
  refine ⟨h.single, by simp, ?_⟩
  intro a ha b hb
  rw [List.mem_singleton.mp hb]
  exact fun heq => hnone (heq ▸ ha)

/-- The old summary of a file is erased first. The new one belongs to the file if the table gives
its number, in whatever form. -/
theorem Owned.add_eq (h : s.Owned) (insertion : Insertion) (path text : String) :
    (s.add insertion path text).2 =
      match insertion with
      | .listed | .sequenced => (s.eraseFile path).stocked path text
      | .silent =>
        { s.eraseFile path with texts := (s.eraseFile path).texts.insertAll [⟨path, text⟩] }
      | .fails _ => s.eraseFile path := by
  have hnone : (s.eraseFile path).owners.eraseWhere (· == path) = (s.eraseFile path).owners := by
    apply Table.eraseWhere_eq_self
    intro owner member
    apply beq_eq_false_iff_ne.mpr
    rintro rfl
    exact h.not_mem_owners_eraseFile owner member
  unfold add
  simp only [hnone]
  cases insertion <;> rfl

/-- The summary of a file is stored, whatever the table answers. -/
theorem Owned.add (h : s.Owned) (insertion : Insertion) (path text : String) :
    Confined path s (s.add insertion path text).2 := by
  have herase := h.eraseFile path
  have howned := herase.owned
  rw [h.add_eq]
  cases insertion with
  | listed | sequenced =>
      exact herase.trans (howned.stocked text (h.not_mem_owners_eraseFile path))
  | silent => exact herase.trans ⟨howned.table.insertAll_confined (by simp), herase.single⟩
  | fails message => exact herase

end SummaryStore

end CodeIndex
