import CodeIndex.Index.Stores
import CodeIndex.Proofs.Table

/-!
The chunk store keeps two tables that are written one after the other: the chunks, and the files
that their rows belong to. Rows are erased by what the second table says of them, so one row too
many in it would cost another file its chunks.

`Sound` says that the second table is the first one with every chunk replaced by its file. Each
operation keeps it, although the numbers of erased rows are given again, and so does every sequence
of calls. Deleting a file names its rows one by one, so it fails for a file that has more of them
than a command can name. How texts are embedded is not part of this; the table of chunks is taken to
fail before it stores anything, or to list the numbers of the new rows.
-/

namespace CodeIndex

/-- The table of texts lists the numbers of the rows that it takes in, or fails before it takes any
in. -/
def Insertion.IsDefinite : Insertion → Prop
  | .listed | .fails _ => True
  | .sequenced | .silent => False

theorem Insertion.isDefinite_of_eq_listed {insertion : Insertion} (h : insertion = .listed) :
    insertion.IsDefinite := by
  rw [h]
  trivial

namespace ChunkStore

/-- The table of owners names the file of every row with a chunk, and has no other rows. -/
structure Sound (s : ChunkStore) : Prop where
  ascending : s.chunks.Ascending
  owners : s.owners = s.chunks.map Chunk.filePath

def chunksOf (path : String) (s : ChunkStore) : List Chunk :=
  s.chunks.values.filter fun c => c.filePath == path

theorem sound_empty : ({} : ChunkStore).Sound :=
  ⟨Table.ascending_empty, rfl⟩

section Erase

variable {s : ChunkStore}

private theorem idsOf_eq_nil {path : String} (h : path ∉ s.owners.values) : s.idsOf path = [] := by
  rw [idsOf, Table.idsWhere, List.map_eq_nil_iff, List.filter_eq_nil_iff]
  intro owner member hpath
  exact h (eq_of_beq hpath ▸ List.mem_map_of_mem member)

/-- Nothing is erased for a file that no row belongs to. -/
theorem eraseFile_eq_self {path : String} (h : path ∉ s.owners.values) :
    s.eraseFile path = s := by
  have howners : s.owners.eraseWhere (· == path) = s.owners := by
    apply Table.eraseWhere_eq_self
    intro owner member
    apply beq_eq_false_iff_ne.mpr
    rintro rfl
    exact h member
  rw [eraseFile, idsOf_eq_nil h, Table.eraseIds_nil, howners]

/-- The rows that belong to a file by the table of owners are those of its chunks. -/
private theorem Sound.idsOf_eq (h : s.Sound) (path : String) :
    s.idsOf path = s.chunks.idsWhere fun c => c.filePath == path := by
  rw [idsOf, h.owners, Table.idsWhere_map]

theorem Sound.eraseFile_eq (h : s.Sound) (path : String) :
    s.eraseFile path =
      { chunks := s.chunks.eraseWhere fun c => c.filePath == path
        owners := (s.chunks.eraseWhere fun c => c.filePath == path).map Chunk.filePath } := by
  unfold eraseFile
  rw [h.idsOf_eq, h.ascending.eraseIds_idsWhere, h.owners, Table.eraseWhere_map]

theorem Sound.eraseFile (h : s.Sound) (path : String) : (s.eraseFile path).Sound := by
  rw [h.eraseFile_eq]
  exact ⟨h.ascending.eraseWhere _, rfl⟩

theorem Sound.length_idsOf (h : s.Sound) (path : String) :
    (s.idsOf path).length = (s.chunksOf path).length := by
  rw [h.idsOf_eq, Table.idsWhere, chunksOf, Table.values, List.filter_map, List.length_map,
    List.length_map]
  rfl

theorem Sound.chunksOf_eraseFile_self (h : s.Sound) (path : String) :
    (s.eraseFile path).chunksOf path = [] := by
  simp [h.eraseFile_eq, chunksOf, Table.values_eraseWhere]

/-- The rows of a file are erased if a command can name them all; otherwise nothing is. -/
theorem deleteFile_cases (limit : Option Nat) (path : String) (s : ChunkStore) :
    (isNameable limit (s.idsOf path).length = true ∧
      s.deleteFile limit path = .ok ((s.idsOf path).length, s.eraseFile path)) ∨
    (isNameable limit (s.idsOf path).length = false ∧
      s.deleteFile limit path = .error .tooManyRows) := by
  cases hfits : isNameable limit (s.idsOf path).length with
  | true => exact Or.inl ⟨rfl, by simp [deleteFile, hfits]⟩
  | false => exact Or.inr ⟨rfl, by simp [deleteFile, hfits]⟩

/-- Where no row belongs to a file, none has to be named. -/
theorem isNameable_of_not_owned {path : String} (h : path ∉ s.owners.values)
    (limit : Option Nat) : isNameable limit (s.idsOf path).length = true := by
  rw [idsOf_eq_nil h]
  cases limit with
  | none => rfl
  | some most => simp [isNameable]

/-- A file without chunks has no rows in either table. -/
theorem Sound.rows_of_chunksOf_eq_nil (h : s.Sound) {path : String} (hnone : s.chunksOf path = []) :
    (∀ row ∈ s.chunks.rows, row.2.filePath ≠ path) ∧ ∀ row ∈ s.owners.rows, row.2 ≠ path := by
  have hchunks : ∀ row ∈ s.chunks.rows, row.2.filePath ≠ path := by
    intro row member
    simpa using List.filter_eq_nil_iff.mp hnone row.2 (List.mem_map_of_mem member)
  refine ⟨hchunks, ?_⟩
  intro row member
  rw [h.owners] at member
  obtain ⟨old, hold, rfl⟩ := List.mem_map.mp member
  exact hchunks old hold

end Erase

section Add

/-- Rows that come after all others are owned without changing an older row. -/
theorem rows_own (path : String) (start count : Nat) (owners : Table String)
    (h : ∀ row ∈ owners.rows, row.1 < start) :
    (own path (List.range' start count) owners).rows =
      owners.rows ++ (List.range' start count).map fun id => (id, path) := by
  cases count with
  | zero => simp [own]
  | succ count =>
      have hbefore : (owners.rows.filter fun row => row.1 < start) = owners.rows :=
        List.filter_eq_self.mpr fun row member => by simpa using h row member
      have hafter : (owners.rows.filter fun row => start + (count + 1) ≤ row.1) = [] := by
        refine List.filter_eq_nil_iff.mpr fun row member => ?_
        have hlt := h row member
        simp only [decide_eq_true_eq]
        omega
      rw [List.range'_succ, own]
      simp only [List.length_cons, List.length_range', hbefore, hafter, List.append_nil]

/-- Where every row belongs to the file of its text, so do the new rows of texts of one file. -/
theorem own_map {α : Type} {file : α → String} {path : String} (t : Table α) {as : List α}
    (hfile : ∀ a ∈ as, file a = path) :
    own path (t.nextIds as.length) (t.map file) = (t.insertAll as).map file := by
  apply Table.eq_of_rows_eq
  rw [Table.map_insertAll, t.nextIds_zip_const file hfile]
  exact rows_own path t.nextId as.length (t.map file) (t.lt_nextId_of_mem_map file)

variable {s : ChunkStore} {path : String} {chunks : List Chunk}

private theorem Sound.owners_lt_nextId (h : s.Sound) (row : Nat × String)
    (member : row ∈ s.owners.rows) : row.1 < s.chunks.nextId := by
  rw [h.owners] at member
  exact s.chunks.lt_nextId_of_mem_map Chunk.filePath row member

def extend (chunks : List Chunk) (s : ChunkStore) : ChunkStore :=
  { chunks := s.chunks.insertAll chunks
    owners := (s.chunks.insertAll chunks).map Chunk.filePath }

theorem Sound.extend (h : s.Sound) (chunks : List Chunk) : (s.extend chunks).Sound :=
  ⟨h.ascending.insertAll chunks, rfl⟩

private theorem Sound.owners_extend (h : s.Sound) (hfile : ∀ c ∈ chunks, c.filePath = path) :
    (s.extend chunks).owners.rows =
      s.owners.rows ++ (s.chunks.nextIds chunks.length).map fun id => (id, path) := by
  rw [ChunkStore.extend, Table.map_insertAll, s.chunks.nextIds_zip_const _ hfile, ← h.owners]

/-- Chunks of one file that the table takes in: both tables grow by rows of that file. -/
theorem Sound.add_listed (h : s.Sound) (hfile : ∀ c ∈ chunks, c.filePath = path) :
    s.add .listed chunks = .ok (s.chunks.nextIds chunks.length, s.extend chunks) := by
  cases chunks with
  | nil =>
      have hsame : s.extend [] = s := by
        rw [ChunkStore.extend, Table.insertAll_nil, ← h.owners]
      rw [hsame]
      rfl
  | cons first rest =>
      have hfirst : first.filePath = path := hfile first (by simp)
      have hrows : own path (s.chunks.nextIds (first :: rest).length) s.owners =
          (s.extend (first :: rest)).owners := by
        rw [h.owners]
        exact own_map s.chunks hfile
      simp only [add, hfirst, hrows]
      rfl

/-- Chunks of one file are all taken in, or the table fails and nothing is. -/
theorem Sound.add_cases (h : s.Sound) {insertion : Insertion} (hdefinite : insertion.IsDefinite)
    (hfile : ∀ c ∈ chunks, c.filePath = path) :
    (∃ ids, s.add insertion chunks = .ok (ids, s.extend chunks)) ∨
      ∃ message, insertion = .fails message ∧
        s.add insertion chunks = .error (.fault message) := by
  cases insertion with
  | listed => exact Or.inl ⟨_, h.add_listed hfile⟩
  | sequenced => exact hdefinite.elim
  | silent => exact hdefinite.elim
  | fails message =>
      cases chunks with
      | nil => exact Or.inl ⟨_, h.add_listed hfile⟩
      | cons first rest => exact Or.inr ⟨message, rfl, rfl⟩

theorem chunksOf_extend_self (s : ChunkStore) (hfile : ∀ c ∈ chunks, c.filePath = path) :
    (s.extend chunks).chunksOf path = s.chunksOf path ++ chunks := by
  have hall : (chunks.filter fun c => c.filePath == path) = chunks :=
    List.filter_eq_self.mpr fun c member => by simp [hfile c member]
  simp only [chunksOf, ChunkStore.extend, Table.values_insertAll, List.filter_append, hall]

end Add

section Calls

structure Batch where
  path : String
  chunks : List Chunk
  ofFile : ∀ c ∈ chunks, c.filePath = path

/-- A call of the store. With a fault the table of chunks fails before it stores anything. -/
inductive Call where
  | add (batch : Batch) (fault : Option String)
  | delete (path : String)

def answer : Option String → Insertion
  | some message => .fails message
  | none => .listed

/-- The store after a call. A call that fails leaves the store as it was. -/
def perform (limit : Option Nat) (s : ChunkStore) : Call → ChunkStore
  | .add batch fault =>
    match s.add (answer fault) batch.chunks with
    | .ok (_, after) => after
    | .error _ => s
  | .delete path =>
    match s.deleteFile limit path with
    | .ok (_, after) => after
    | .error _ => s

def run (limit : Option Nat) (calls : List Call) : ChunkStore :=
  calls.foldl (perform limit) {}

private theorem perform_of_not_deleted {limit : Option Nat} {path : String} {failure : StoreFailure}
    {s : ChunkStore} (h : s.deleteFile limit path = .error failure) :
    s.perform limit (.delete path) = s := by
  simp only [perform, h]

private theorem answer_definite (fault : Option String) : (answer fault).IsDefinite := by
  cases fault <;> trivial

private theorem Sound.perform {s : ChunkStore} (h : s.Sound) (limit : Option Nat) (call : Call) :
    (s.perform limit call).Sound := by
  cases call with
  | add batch fault =>
      rcases h.add_cases (answer_definite fault) batch.ofFile with
        ⟨ids, hadd⟩ | ⟨message, -, hadd⟩
      · simp only [ChunkStore.perform, hadd]
        exact h.extend batch.chunks
      · simpa only [ChunkStore.perform, hadd] using h
  | delete path =>
      rcases s.deleteFile_cases limit path with ⟨-, hdelete⟩ | ⟨-, hdelete⟩
      · simp only [ChunkStore.perform, hdelete]
        exact h.eraseFile path
      · rwa [perform_of_not_deleted hdelete]

private theorem run_sound (limit : Option Nat) (calls : List Call) : (run limit calls).Sound :=
  List.foldlRecOn (motive := Sound) calls (ChunkStore.perform limit) sound_empty
    fun _ h call _ => h.perform limit call

/-- After any calls the table of owners names the file of each row with a chunk and has no other
rows. Deleting a file then erases its rows alone, from both tables, and gives their number, if a
command can name so many rows; otherwise it fails and erases nothing. Adding chunks of a file owns
the rows after the last one, which nobody owns yet, and keeps all older ones; if the table fails,
nothing is stored. -/
theorem owners_follow_chunks_after_calls (limit : Option Nat) (calls : List Call) :
    let s := run limit calls
    s.chunks.Ascending ∧
    s.owners.rows = s.chunks.rows.map (fun row => (row.1, row.2.filePath)) ∧
    (∀ path,
      let rows := s.chunks.rows.filter fun row => row.2.filePath == path
      (isNameable limit rows.length = true →
        ∃ after, s.deleteFile limit path = .ok (rows.length, after) ∧
          s.perform limit (.delete path) = after ∧
          after.chunks.rows = (s.chunks.rows.filter fun row => row.2.filePath != path) ∧
          after.owners.rows = s.owners.rows.filter fun row => row.2 != path) ∧
      (isNameable limit rows.length = false →
        s.deleteFile limit path = .error .tooManyRows ∧ s.perform limit (.delete path) = s)) ∧
    ∀ batch : Batch,
      let ids := s.chunks.nextIds batch.chunks.length
      (∃ after, s.add .listed batch.chunks = .ok (ids, after) ∧
        s.perform limit (.add batch none) = after ∧
        after.chunks.rows = s.chunks.rows ++ ids.zip batch.chunks ∧
        after.owners.rows = s.owners.rows ++ (ids.map fun id => (id, batch.path)) ∧
        ∀ row ∈ s.owners.rows, row.1 ∉ ids) ∧
      ∀ message, s.perform limit (.add batch (some message)) = s := by
  intro s
  have h : s.Sound := run_sound limit calls
  refine ⟨h.ascending, congrArg Table.rows h.owners, ?_, ?_⟩
  · intro path rows
    have hcount : rows.length = (s.idsOf path).length := by
      rw [h.idsOf_eq]
      simp [rows, Table.idsWhere]
    rcases s.deleteFile_cases limit path with ⟨hfits, hdelete⟩ | ⟨hrefused, hdelete⟩
    · rw [hcount, hfits]
      refine ⟨fun _ => ⟨_, hdelete, by simp only [perform, hdelete], ?_, rfl⟩, fun hfails => ?_⟩
      · rw [h.eraseFile_eq]
        rfl
      · cases hfails
    · rw [hcount, hrefused]
      refine ⟨fun hfits => ?_, fun _ => ⟨hdelete, perform_of_not_deleted hdelete⟩⟩
      cases hfits
  · intro batch ids
    have hadd := h.add_listed batch.ofFile
    refine ⟨⟨_, hadd, by simp only [perform, answer, hadd], Table.rows_insertAll _ _,
      h.owners_extend batch.ofFile, ?_⟩, ?_⟩
    · intro row member taken
      have hlt := h.owners_lt_nextId row member
      have hle := s.chunks.mem_nextIds _ _ taken
      omega
    · intro message
      cases hchunks : batch.chunks with
      | nil => simp only [perform, hchunks, add]
      | cons first rest => simp only [perform, answer, hchunks, add]

/-- The number of the third row goes from one file to another, between them the table fails. Then
a file is deleted, and another one gets a second row. -/
theorem owners_follow_chunks_when_number_is_given_again :
    let chunk (path : String) : Chunk := ⟨"x", path, 1, 1, none⟩
    let batch (path : String) : Batch := ⟨path, [chunk path], by simp [chunk]⟩
    let limit := some rowsNameable
    let s := run limit [.add (batch "a") none, .add (batch "b") none, .add (batch "c") none,
      .delete "c", .add (batch "a") (some "full"), .add (batch "d") none]
    s.owners.rows = [(1, "a"), (2, "b"), (3, "d")] ∧
      (∃ after, s.deleteFile limit "a" = .ok (1, after) ∧
        after.chunks.rows = [(2, chunk "b"), (3, chunk "d")] ∧
        after.owners.rows = [(2, "b"), (3, "d")]) ∧
      ∃ after, s.add .listed [chunk "b"] = .ok ([4], after) ∧
        after.owners.rows = [(1, "a"), (2, "b"), (3, "d"), (4, "b")] := by
  intro chunk batch limit s
  obtain ⟨-, -, hdelete, hadd⟩ := owners_follow_chunks_after_calls limit
    [.add (batch "a") none, .add (batch "b") none, .add (batch "c") none, .delete "c",
      .add (batch "a") (some "full"), .add (batch "d") none]
  have hcount : (s.chunks.rows.filter fun row => row.2.filePath == "a").length = 1 := by
    decide +kernel
  have hids : s.chunks.nextIds (batch "b").chunks.length = [4] := by decide +kernel
  refine ⟨by decide +kernel, ?_, ?_⟩
  · obtain ⟨after, hdeleted, -, hrows, hkept⟩ := (hdelete "a").1 (by decide +kernel)
    exact ⟨after, hdeleted.trans (congrArg (fun count => Except.ok (count, after)) hcount),
      hrows.trans (by decide +kernel), hkept.trans (by decide +kernel)⟩
  · obtain ⟨⟨after, hadded, -, -, hrows, -⟩, -⟩ := hadd (batch "b")
    exact ⟨after, hadded.trans (congrArg (fun ids => Except.ok (ids, after)) hids),
      hrows.trans (by decide +kernel)⟩

/-- Of the first file that is stored there are as many rows as chunks. -/
private theorem length_rows_run_add (limit : Option Nat) (batch : Batch) :
    ((run limit [.add batch none]).chunks.rows.filter fun row =>
      row.2.filePath == batch.path).length = batch.chunks.length := by
  have hadd := sound_empty.add_listed batch.ofFile
  have hrun : run limit [.add batch none] = ({} : ChunkStore).extend batch.chunks := by
    simp only [run, List.foldl_cons, List.foldl_nil, perform, answer, hadd]
  calc
    _ = ((({} : ChunkStore).extend batch.chunks).chunksOf batch.path).length := by
      rw [hrun, chunksOf, Table.values, List.filter_map, List.length_map]
      rfl
    _ = batch.chunks.length := by
      rw [chunksOf_extend_self {} batch.ofFile]
      rfl

/-- A file with more chunks than a command can name cannot be deleted. -/
theorem deletion_fails_beyond_limit :
    let chunk : Chunk := ⟨"x", "a", 1, 1, none⟩
    let batch : Batch :=
      ⟨"a", List.replicate (rowsNameable + 1) chunk, fun _ h => List.eq_of_mem_replicate h ▸ rfl⟩
    let limit := some rowsNameable
    let s := run limit [.add batch none]
    (s.chunks.rows.filter fun row => row.2.filePath == "a").length = rowsNameable + 1 ∧
      s.deleteFile limit "a" = .error .tooManyRows ∧ s.perform limit (.delete "a") = s := by
  intro chunk batch limit s
  have hcount : (s.chunks.rows.filter fun row => row.2.filePath == "a").length =
      rowsNameable + 1 := (length_rows_run_add limit batch).trans List.length_replicate
  have hids : (s.idsOf "a").length = rowsNameable + 1 := by
    rw [(run_sound limit [.add batch none]).idsOf_eq, Table.idsWhere, List.length_map]
    exact hcount
  rcases s.deleteFile_cases limit "a" with ⟨hfits, -⟩ | ⟨-, hdelete⟩
  · simp only [hids, limit, isNameable, Option.all_some, decide_eq_true_eq] at hfits
    omega
  · exact ⟨hcount, hdelete, perform_of_not_deleted hdelete⟩

end Calls

end ChunkStore

end CodeIndex
