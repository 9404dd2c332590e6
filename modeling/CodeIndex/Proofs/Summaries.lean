import CodeIndex.Proofs.Views

/-!
The summaries of files, and the texts that they are searched by.

A summary is written three times: to the table of summaries, to the table of texts, and to the table
of the files that texts belong to. The first is written before the old text is erased and the new
one put in, and a failure of the last step is not reported. So a summary may be without a text; but
where there is a text it is that of the summary, and no file has two of them. `SummariesAgree` says
so, and every step keeps it as long as the table of texts gives the numbers of its new rows, in
whatever form, or fails before it takes any in.
-/

namespace CodeIndex

def Insertion.isFailure : Insertion → Bool
  | .fails _ => true
  | .listed | .sequenced | .silent => false

namespace SummaryStore

/-- The table of owners names the file of every row with a text, and has no other rows; a file has
one text at most. -/
structure Sound (s : SummaryStore) : Prop where
  ascending : s.texts.Ascending
  owners : s.owners = s.texts.map SummaryText.path
  single : (s.texts.values.map SummaryText.path).Nodup

variable {s : SummaryStore} {path : String}

private theorem sound_empty : ({} : SummaryStore).Sound :=
  ⟨Table.ascending_empty, rfl, List.nodup_nil⟩

private theorem Sound.owned (h : s.Sound) : s.Owned := by
  have howners : s.owners.rows = (s.texts.map SummaryText.path).rows := congrArg Table.rows h.owners
  refine ⟨⟨h.ascending, howners ▸ List.Sublist.refl _⟩, ?_⟩
  rw [h.owners, Table.values_map]
  exact h.single

/-- To erase the rows that belong to a file is to erase those with a text of it. -/
theorem Sound.eraseFile_eq (h : s.Sound) (path : String) :
    s.eraseFile path =
      { texts := s.texts.eraseWhere fun t => t.path == path
        owners := (s.texts.eraseWhere fun t => t.path == path).map SummaryText.path } := by
  rw [SummaryStore.eraseFile_eq h.owned.single, h.owners, Table.idsWhere_map,
    h.ascending.eraseIds_idsWhere, Table.eraseWhere_map]

private theorem Sound.texts_eraseFile (h : s.Sound) (path : String) :
    (s.eraseFile path).texts.values = s.texts.values.filter fun t => !(t.path == path) := by
  rw [h.eraseFile_eq, Table.values_eraseWhere]

private theorem Sound.eraseFile (h : s.Sound) (path : String) : (s.eraseFile path).Sound := by
  have htexts := h.texts_eraseFile path
  rw [h.eraseFile_eq] at htexts ⊢
  refine ⟨h.ascending.eraseWhere _, rfl, ?_⟩
  rw [htexts]
  exact h.single.sublist (List.filter_sublist.map _)

/-- The new row gets the same number in both tables, though it may be one that was given before. -/
theorem Sound.stocked (h : s.Sound) (text : String) (hnone : ∀ t ∈ s.texts.values, t.path ≠ path) :
    (s.stocked path text).Sound := by
  have hfile : ∀ t ∈ [(⟨path, text⟩ : SummaryText)], t.path = path := by simp
  refine ⟨h.ascending.insertAll _, ?_, Table.nodup_map_values_insert h.single hnone⟩
  rw [SummaryStore.stocked, h.owners]
  exact ChunkStore.own_map s.texts hfile

/-- What adding the summary of a file leaves in the store: the texts of other files, and the new one
unless the table fails. -/
theorem Sound.add (h : s.Sound) {insertion : Insertion} (hnumbers : insertion ≠ .silent)
    (path text : String) :
    (s.add insertion path text).2.Sound ∧
    (s.add insertion path text).2.texts.values =
      (s.texts.values.filter fun t => !(t.path == path)) ++
        if insertion.isFailure then [] else [⟨path, text⟩] := by
  have herased := h.eraseFile path
  have hothers := h.texts_eraseFile path
  have hnone : ∀ t ∈ (s.eraseFile path).texts.values, t.path ≠ path := by
    intro t member
    rw [hothers] at member
    simpa using (List.mem_filter.mp member).2
  rw [h.owned.add_eq]
  cases insertion with
  | listed | sequenced =>
      refine ⟨herased.stocked text hnone, ?_⟩
      simp [SummaryStore.stocked, Table.values_insertAll, hothers, Insertion.isFailure]
  | silent => exact absurd rfl hnumbers
  | fails message => exact ⟨herased, by simp [hothers, Insertion.isFailure]⟩

end SummaryStore

namespace Index

/-- The table of summaries and the store that they are searched by agree. -/
structure SummariesAgree (idx : Index) : Prop where
  store : idx.summaryStore.Sound
  /-- A file has one summary at most. -/
  unique : (idx.summaries.values.map FileSummary.path).Nodup
  /-- Each text in the store is that of the summary of its file. -/
  told : ∀ t ∈ idx.summaryStore.texts.values,
    ∃ s ∈ idx.summaries.values, s.path = t.path ∧ s.summary = t.text

private theorem summariesAgree_empty : ({} : Index).SummariesAgree :=
  ⟨SummaryStore.sound_empty, List.nodup_nil, by simp [Table.values]⟩

section Attempt

variable {idx after : Index}

def summaryTables (idx : Index) : Table FileSummary × SummaryStore :=
  (idx.summaries, idx.summaryStore)

private theorem SummariesAgree.of_summaryTables_eq (h : idx.SummariesAgree)
    (heq : after.summaryTables = idx.summaryTables) : after.SummariesAgree := by
  obtain ⟨hsummaries, hstore⟩ := Prod.mk.inj heq
  refine ⟨?_, ?_, ?_⟩
  · rw [hstore]
    exact h.store
  · rw [hsummaries]
    exact h.unique
  · rw [hstore, hsummaries]
    exact h.told

/-- An attempt to index a file does not concern the summaries. -/
private theorem summaryTables_indexFile (indexer : Indexer) (files : Files) (path : String)
    (idx : Index) :
    (idx.indexFile indexer files path).index.summaryTables = idx.summaryTables := by
  refine indexFile_preserves (P := fun after => after.summaryTables = idx.summaryTables)
    ?_ ?_ ?_ files rfl
  · intro last f _ h
    obtain ⟨records, heq⟩ := last.updateRecord_eq path f
    rw [heq]
    exact h
  · exact fun _ _ h => h
  · intro last content h
    obtain ⟨symbols, relationships, heq⟩ := analyze_eq indexer path content last
    rw [heq]
    exact h

end Attempt

section Summaries

variable {indexer : Indexer} {path text : String} {language : Option String} {lineCount : Int}
  {idx : Index}

private theorem unique_putSummary (h : (idx.summaries.values.map FileSummary.path).Nodup) :
    ((idx.putSummary path text language lineCount).summaries.values.map
      FileSummary.path).Nodup := by
  unfold putSummary
  split
  next =>
    rw [Table.map_values_updateWhere]
    · exact h
    · exact fun _ => rfl
  next hnone =>
    refine Table.nodup_map_values_insert h ?_
    simpa [Table.find?] using hnone

private theorem exists_mem_putSummary (path text : String) (language : Option String)
    (lineCount : Int) (idx : Index) :
    ∃ s ∈ (idx.putSummary path text language lineCount).summaries.values,
      s.path = path ∧ s.summary = text := by
  have hput := summariesOf_putSummary path text language lineCount idx
  have hmember (s : FileSummary)
      (member : s ∈ (idx.putSummary path text language lineCount).summariesOf path) :
      s ∈ (idx.putSummary path text language lineCount).summaries.values ∧ s.path = path := by
    obtain ⟨hs, hpath⟩ := List.mem_filter.mp member
    exact ⟨hs, eq_of_beq hpath⟩
  rw [hput] at hmember
  cases hold : idx.summariesOf path with
  | nil =>
      obtain ⟨hs, hpath⟩ := hmember { path, summary := text, language, lineCount } (by simp [hold])
      exact ⟨_, hs, hpath, rfl⟩
  | cons first rest =>
      obtain ⟨hs, hpath⟩ :=
        hmember { first with summary := text, language, lineCount } (by simp [hold])
      exact ⟨_, hs, hpath, rfl⟩

private theorem mem_putSummary_of_ne {s : FileSummary} (member : s ∈ idx.summaries.values)
    (hne : s.path ≠ path) : s ∈ (idx.putSummary path text language lineCount).summaries.values := by
  have hkept : s ∈ (idx.summaries.eraseWhere fun s => s.path == path).values := by
    rw [Table.values_eraseWhere]
    exact List.mem_filter.mpr ⟨member, by simpa using hne⟩
  rw [← putSummary_eraseWhere path text language lineCount, Table.values_eraseWhere] at hkept
  exact (List.mem_filter.mp hkept).1

def describe (insertion : Insertion) (task : SummaryTask) (text : String) (idx : Index) : Index :=
  { idx.putSummary task.path text task.language (Text.lines task.content).length with
    summaryStore := (idx.summaryStore.add insertion task.path text).2 }

/-- A file of which a summary can be made, and stored. -/
theorem summarizeFile_eq_describe (hsummarizes : indexer.summarizes = true) {task : SummaryTask}
    (htext : Summary.ofFile indexer.order task.content task.language = .ok text)
    (hlimit : isLimit (Text.lines task.content).length = true) (idx : Index) :
    idx.summarizeFile indexer task = idx.describe indexer.insertion task text := by
  obtain ⟨summaries, hput⟩ :=
    putSummary_eq task.path text task.language (Text.lines task.content).length idx
  simp [summarizeFile, storeSummary, describe, htext, hlimit, hsummarizes, hput]

theorem summarizeFile_cases_of_summarizes (hsummarizes : indexer.summarizes = true)
    (task : SummaryTask) (idx : Index) :
    idx.summarizeFile indexer task = idx ∨
      ∃ text, idx.summarizeFile indexer task = idx.describe indexer.insertion task text := by
  cases htext : Summary.ofFile indexer.order task.content task.language with
  | error failure => exact Or.inl (by simp [summarizeFile, htext])
  | ok text =>
      cases hlimit : isLimit (Text.lines task.content).length with
      | false => exact Or.inl (by simp [summarizeFile, storeSummary, htext, hlimit])
      | true => exact Or.inr ⟨text, summarizeFile_eq_describe hsummarizes htext hlimit idx⟩

/-- The summary is written first. A table of texts that fails then leaves it without a text, but no
text without it. -/
private theorem SummariesAgree.describe (h : idx.SummariesAgree) {insertion : Insertion}
    (hnumbers : insertion ≠ .silent) (task : SummaryTask) (text : String) :
    (idx.describe insertion task text).SummariesAgree := by
  obtain ⟨hsound, htexts⟩ := h.store.add hnumbers task.path text
  refine ⟨hsound, unique_putSummary h.unique, ?_⟩
  intro t member
  change t ∈ (idx.summaryStore.add insertion task.path text).2.texts.values at member
  rw [htexts] at member
  rcases List.mem_append.mp member with hother | hnew
  · obtain ⟨hold, hne⟩ := List.mem_filter.mp hother
    obtain ⟨s, hs, hpath, hsummary⟩ := h.told t hold
    refine ⟨s, mem_putSummary_of_ne hs ?_, hpath, hsummary⟩
    rw [hpath]
    simpa using hne
  · obtain rfl : t = ⟨task.path, text⟩ := by
      split at hnew
      · cases hnew
      · exact List.mem_singleton.mp hnew
    exact exists_mem_putSummary task.path text task.language _ idx

private theorem SummariesAgree.textsOf_describe (h : idx.SummariesAgree) {insertion : Insertion}
    (hnumbers : insertion ≠ .silent) (task : SummaryTask) (text : String) :
    (idx.describe insertion task text).textsOf task.path =
      if insertion.isFailure then [] else [⟨task.path, text⟩] := by
  unfold textsOf
  change (idx.summaryStore.add insertion task.path text).2.texts.values.filter _ = _
  rw [(h.store.add hnumbers task.path text).2]
  simp only [List.filter_append, List.filter_filter]
  split <;> simp

/-- A table that gives numbers, or fails, keeps the summaries in agreement. -/
theorem SummariesAgree.summarizeFiles (h : idx.SummariesAgree)
    (hnumbers : indexer.insertion ≠ .silent) (tasks : List SummaryTask) :
    (idx.summarizeFiles indexer tasks).SummariesAgree := by
  unfold Index.summarizeFiles
  split
  next hwanted =>
    have hsummarizes : indexer.summarizes = true := (Bool.and_eq_true_iff.mp hwanted).2
    refine List.foldlRecOn (motive := SummariesAgree) tasks (summarizeFile indexer) h ?_
    intro last hlast task _
    rcases summarizeFile_cases_of_summarizes hsummarizes task last with heq | ⟨text, heq⟩
    · rw [heq]
      exact hlast
    · rw [heq]
      exact hlast.describe hnumbers task text
  next => exact h

end Summaries

end Index

namespace Workspace

/-- The tables of texts give the numbers of new rows, in a list or not, or fail. -/
def Numbers (w : Workspace) : Prop :=
  w.insertion ≠ .silent

private theorem Numbers.continues {w after : Workspace} (h : w.Numbers)
    (hcontinues : w.Continues after) :
    after.Numbers := by
  unfold Numbers insertion
  rw [hcontinues.faults]
  exact h

private theorem numbers_of_answer {w : Workspace} (h : w.faults.answer ≠ .silent) : w.Numbers := by
  unfold Numbers insertion
  cases w.faults.insert with
  | some message => exact Insertion.noConfusion
  | none => exact h

private theorem Reached.summariesAgree {w : Workspace} (h : Reached Numbers w) :
    w.Numbers ∧ w.index.SummariesAgree := by
  refine h.index_invariant ?_ Index.summariesAgree_empty ?_ ?_ ?_
  · exact fun w after hcontinues hnumbers => hnumbers.continues hcontinues
  · intro w path _ hagree
    exact hagree.of_summaryTables_eq (Index.summaryTables_indexFile w.indexer w.files path w.index)
  · exact fun idx path hagree => hagree.of_summaryTables_eq rfl
  · intro w tasks hnumbers hagree
    have hinsertion : w.indexer.insertion ≠ .silent := hnumbers
    exact hagree.summarizeFiles hinsertion tasks

private theorem indexer_stored (path : String) (w : Workspace) :
    (w.stored path).indexer = w.indexer := by
  rcases w.stored_cases path with h | h
  · rw [h]
  · rw [h]
    rfl

/-- A batch is the summary of its first file, then the rest of it. -/
private theorem summarizeFiles_cons_index (task : SummaryTask) (rest : List SummaryTask)
    (w : Workspace) :
    (w.summarizeFiles (task :: rest)).index =
      ((w.summarizeFiles [task]).summarizeFiles rest).index := by
  have hindexer : (w.summarizeFiles [task]).indexer = w.indexer := by
    unfold summarizeFiles
    simp only [List.foldl_cons, List.foldl_nil]
    split
    · cases Summary.ofFile w.order task.content task.language with
      | ok text => exact indexer_stored task.path _
      | error failure => rfl
    · rfl
  rw [summarizeFiles_index, summarizeFiles_index, summarizeFiles_index, hindexer]
  unfold Index.summarizeFiles
  split <;> rfl

/-- After any run in which the tables of texts give the numbers of new rows or fail, the texts that
summaries are searched by have the same numbers as the rows that say whose they are, no file has two
of them, and each is the summary that the index has of its file. A batch is made of summaries of
single files, between which the table may fail as anywhere else in a run. If it fails at a file, the
file is left with its new summary and without a text; otherwise its only text is the new summary. -/
theorem texts_agree_with_summaries (w : Workspace) (h : Reached Numbers w) :
    let store := w.index.summaryStore
    store.texts.Ascending ∧
    store.owners.rows = store.texts.rows.map (fun row => (row.1, row.2.path)) ∧
    (store.texts.values.map SummaryText.path).Nodup ∧
    (w.index.summaries.values.map FileSummary.path).Nodup ∧
    (∀ row ∈ store.texts.rows, ∃ s ∈ w.index.summaries.values,
      s.path = row.2.path ∧ s.summary = row.2.text) ∧
    (∀ task rest, (w.summarizeFiles (task :: rest)).index =
      ((w.summarizeFiles [task]).summarizeFiles rest).index) ∧
    ∀ (task : SummaryTask) (text : String),
      (w.settings.enableSummaries && w.summarizes) = true →
      Summary.ofFile w.order task.content task.language = .ok text →
      isLimit (Text.lines task.content).length = true →
      let after := (w.summarizeFiles [task]).index
      (∃ s ∈ after.summaries.values, s.path = task.path ∧ s.summary = text) ∧
      after.textsOf task.path =
        if w.insertion.isFailure then [] else [⟨task.path, text⟩] := by
  obtain ⟨hnumbers, hagree⟩ := h.summariesAgree
  have hinsertion : w.indexer.insertion ≠ .silent := hnumbers
  refine ⟨hagree.store.ascending, ?_, hagree.store.single, hagree.unique, ?_,
    fun task rest => summarizeFiles_cons_index task rest w, ?_⟩
  · rw [hagree.store.owners]
    rfl
  · intro row hrow
    exact hagree.told row.2 (List.mem_map_of_mem hrow)
  · intro task text hwanted htext hlimit
    have hsummarizes : w.indexer.summarizes = true := (Bool.and_eq_true_iff.mp hwanted).2
    have hafter : (w.summarizeFiles [task]).index =
        w.index.describe w.indexer.insertion task text := by
      rw [summarizeFiles_index]
      refine (if_pos hwanted).trans ?_
      exact Index.summarizeFile_eq_describe hsummarizes htext hlimit w.index
    rw [hafter]
    exact ⟨Index.exists_mem_putSummary task.path text task.language _ w.index,
      hagree.textsOf_describe hinsertion task text⟩

/-- One batch summarizes a file twice. Then the table of texts fails when the file is summarized
again, and the number of the text that it had is given to another file. The new summary is there,
without a text. -/
theorem texts_agree_when_number_is_given_again :
    let first : Workspace :=
      { window := ⟨40, 10⟩, analyzer := none, faults := { answer := .sequenced } }
    let batch : List SummaryTask :=
      [⟨"a.py", ['x'], some "python"⟩, ⟨"b.py", ['x'], some "python"⟩,
        ⟨"a.py", "import x".toList, some "python"⟩]
    let summarized := first.summarizeFiles batch
    let failed :=
      ({ summarized with faults := { insert := some "full" } }).summarizeFiles
        [⟨"a.py", "import y".toList, some "python"⟩]
    let w :=
      ({ failed with faults := {} }).summarizeFiles [⟨"c.py", ['x'], some "python"⟩]
    let store := w.index.summaryStore
    summarized.index.summaryStore.texts.rows =
        [(2, ⟨"b.py", "Python module"⟩), (3, ⟨"a.py", "Imports: x"⟩)] ∧
      failed.index.summaryStore.texts.rows = [(2, ⟨"b.py", "Python module"⟩)] ∧
      store.texts.rows = [(2, ⟨"b.py", "Python module"⟩), (3, ⟨"c.py", "Python module"⟩)] ∧
      w.index.summaries.values.map (fun s => (s.path, s.summary)) =
        [("a.py", "Imports: y"), ("b.py", "Python module"), ("c.py", "Python module")] ∧
      store.owners.rows = store.texts.rows.map (fun row => (row.1, row.2.path)) ∧
      (∀ row ∈ store.texts.rows, ∃ s ∈ w.index.summaries.values,
        s.path = row.2.path ∧ s.summary = row.2.text) ∧
      (w.summarizeFiles [⟨"b.py", "import z".toList, some "python"⟩]).index.textsOf "b.py" =
        [⟨"b.py", "Imports: z"⟩] := by
  intro first batch summarized failed w store
  have hchanged {w : Workspace} (h : Reached Numbers w) (faults : Faults)
      (hanswer : faults.answer ≠ .silent) : Reached Numbers { w with faults } :=
    .surroundings h rfl (numbers_of_answer hanswer)
  have hsummarized : Reached Numbers summarized :=
    .summarizeFiles batch (.empty rfl (numbers_of_answer (by decide)))
  have hfailed : Reached Numbers failed :=
    .summarizeFiles _ (hchanged hsummarized { insert := some "full" } (by decide))
  have hreached : Reached Numbers w := .summarizeFiles _ (hchanged hfailed {} (by decide))
  obtain ⟨-, howners, -, -, htold, -, hdescribed⟩ := texts_agree_with_summaries w hreached
  have hstores : w.insertion.isFailure = false := by decide +kernel
  have hlast := hdescribed ⟨"b.py", "import z".toList, some "python"⟩ "Imports: z"
    (by decide +kernel) (by rfl) (by decide +kernel)
  rw [hstores] at hlast
  refine ⟨?_, ?_, ?_, ?_, howners, htold, hlast.2⟩
  all_goals decide +kernel

end Workspace

end CodeIndex
