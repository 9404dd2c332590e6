import CodeIndex.Index.Analysis
import CodeIndex.Proofs.Table

/-!
The symbols and relationships of a file are replaced all at once or not at all.

The old rows are gone from the working copy before the first new row is put in, so a row that fails
leaves a copy with neither the old rows nor all of the new ones. `Fits` says what a row needs, field
by field. A run of insertions into one table makes the rows of all its drafts or fails, so a
transaction is computed from the rows alone; one that fails leaves the index as it was.
-/

namespace CodeIndex

namespace Text.CodeText

private theorem unwritableFrom?_eq_none_iff (s : CodeText) (start : Nat) :
    unwritableFrom? start s = none ↔ ∀ c ∈ s, c.isHalf = false := by
  induction s generalizing start with
  | nil => simp [unwritableFrom?]
  | cons c rest ih => cases c <;> simp [unwritableFrom?, CodePoint.isHalf, ih]

end Text.CodeText

/-! ### Rows -/

def HasLine (line : Option Nat) : Prop :=
  ∃ n, line = some n ∧ n < 0x8000000000000000

/-- A symbol that the index can take in: no field that it needs is missing, and all of them can be
written. -/
structure SymbolDraft.Fits (d : SymbolDraft) : Prop where
  name : d.name ≠ none
  kind : d.kind ≠ none
  lineStart : HasLine d.lineStart
  lineEnd : HasLine d.lineEnd
  docText : ∀ text, d.docText = some text → ∀ c ∈ text, c.isHalf = false

structure RelationshipDraft.Fits (d : RelationshipDraft) : Prop where
  sourceFile : d.sourceFile ≠ none
  source : d.source ≠ none
  line : HasLine d.line
  target : d.target ≠ none
  kind : d.kind ≠ none

section Rows

private theorem checkedRow_eq_ok_iff {α : Type} {unwritable? : Option IndexFailure}
    {complete? : Option α} {row : α} :
    checkedRow unwritable? complete? = .ok row ↔ unwritable? = none ∧ complete? = some row := by
  cases unwritable? <;> cases complete? <;> simp [checkedRow]

private theorem hasLine_iff (line : Option Nat) :
    HasLine line ↔ line ≠ none ∧ line.all isLineNumber = true := by
  cases line with
  | none => simp [HasLine]
  | some n => simp [HasLine, isLineNumber, isLimit]

namespace SymbolDraft

variable {path : String} {d : SymbolDraft} {s : Symbol}

private theorem complete?_eq_some_iff :
    d.complete? path = some s ↔ s.draft = d ∧ s.filePath = path := by
  constructor
  · intro h
    obtain ⟨name, kind, lineStart, lineEnd, signature, docText, parent, isExported⟩ := d
    cases name <;> cases kind <;> cases lineStart <;> cases lineEnd <;> cases h
    exact ⟨rfl, rfl⟩
  · rintro ⟨rfl, rfl⟩
    rfl

theorem row_eq_ok_iff :
    d.row path = .ok s ↔ d.unwritable? = none ∧ s.draft = d ∧ s.filePath = path := by
  rw [row, checkedRow_eq_ok_iff, complete?_eq_some_iff]

private theorem unwritable?_eq_none_iff :
    d.unwritable? = none ↔
      d.lineStart.all isLineNumber = true ∧ d.lineEnd.all isLineNumber = true ∧
        ∀ text, d.docText = some text → ∀ c ∈ text, c.isHalf = false := by
  unfold unwritable?
  cases d.lineStart.all isLineNumber <;> cases d.lineEnd.all isLineNumber <;>
    cases d.docText <;> simp [Text.CodeText.unwritable?, Text.CodeText.unwritableFrom?_eq_none_iff]

/-- The rows are those that fit. -/
theorem fits_iff (path : String) (d : SymbolDraft) : d.Fits ↔ ∃ s, d.row path = .ok s := by
  simp only [row_eq_ok_iff, unwritable?_eq_none_iff]
  constructor
  · rintro ⟨hname, hkind, hstart, hend, hdoc⟩
    rw [hasLine_iff] at hstart hend
    obtain ⟨name, kind, lineStart, lineEnd, signature, docText, parent, isExported⟩ := d
    obtain ⟨name, rfl⟩ := Option.ne_none_iff_exists'.mp hname
    obtain ⟨kind, rfl⟩ := Option.ne_none_iff_exists'.mp hkind
    obtain ⟨lineStart, rfl⟩ := Option.ne_none_iff_exists'.mp hstart.1
    obtain ⟨lineEnd, rfl⟩ := Option.ne_none_iff_exists'.mp hend.1
    exact ⟨⟨name, kind, path, lineStart, lineEnd, signature, docText, parent, isExported⟩,
      ⟨hstart.2, hend.2, hdoc⟩, rfl, rfl⟩
  · rintro ⟨s, ⟨hstart, hend, hdoc⟩, rfl, -⟩
    have hpresent {α : Type} (a : α) : some a ≠ none := Option.some_ne_none a
    exact ⟨hpresent _, hpresent _, (hasLine_iff _).mpr ⟨hpresent _, hstart⟩,
      (hasLine_iff _).mpr ⟨hpresent _, hend⟩, hdoc⟩

end SymbolDraft

namespace RelationshipDraft

variable {d : RelationshipDraft} {r : Relationship}

private theorem complete?_eq_some_iff : d.complete? = some r ↔ r.draft = d := by
  constructor
  · intro h
    obtain ⟨sourceFile, source, line, targetFile, target, kind, isExternal⟩ := d
    cases sourceFile <;> cases source <;> cases line <;> cases target <;> cases kind <;> cases h
    rfl
  · rintro rfl
    rfl

theorem row_eq_ok_iff : d.row = .ok r ↔ d.unwritable? = none ∧ r.draft = d := by
  rw [row, checkedRow_eq_ok_iff, complete?_eq_some_iff]

private theorem unwritable?_eq_none_iff :
    d.unwritable? = none ↔ d.line.all isLineNumber = true := by
  unfold unwritable?
  split <;> simp_all

/-- The rows are those that fit. -/
theorem fits_iff (d : RelationshipDraft) : d.Fits ↔ ∃ r, d.row = .ok r := by
  simp only [row_eq_ok_iff, unwritable?_eq_none_iff]
  constructor
  · rintro ⟨hfile, hsource, hline, htarget, hkind⟩
    rw [hasLine_iff] at hline
    obtain ⟨sourceFile, source, line, targetFile, target, kind, isExternal⟩ := d
    obtain ⟨sourceFile, rfl⟩ := Option.ne_none_iff_exists'.mp hfile
    obtain ⟨source, rfl⟩ := Option.ne_none_iff_exists'.mp hsource
    obtain ⟨line, rfl⟩ := Option.ne_none_iff_exists'.mp hline.1
    obtain ⟨target, rfl⟩ := Option.ne_none_iff_exists'.mp htarget
    obtain ⟨kind, rfl⟩ := Option.ne_none_iff_exists'.mp hkind
    exact ⟨⟨sourceFile, source, line, targetFile, target, kind, isExternal⟩, hline.2, rfl⟩
  · rintro ⟨r, hline, rfl⟩
    have hpresent {α : Type} (a : α) : some a ≠ none := Option.some_ne_none a
    exact ⟨hpresent _, hpresent _, (hasLine_iff _).mpr ⟨hpresent _, hline⟩, hpresent _, hpresent _⟩

end RelationshipDraft

end Rows

/-! ### Insertions into one table -/

section Insertions

variable {ε δ α : Type} {row : δ → Except ε α} {drafts : List δ} {rows : List α}

private theorem mapM_cons_eq_ok_iff {d : δ} :
    (d :: drafts).mapM row = .ok rows ↔
      ∃ a rest, row d = .ok a ∧ drafts.mapM row = .ok rest ∧ rows = a :: rest := by
  rw [List.mapM_cons]
  cases row d with
  | error e => simp [bind, Except.bind]
  | ok a => cases drafts.mapM row <;> simp [bind, Except.bind, pure, Except.pure, eq_comm]

theorem exists_mapM_eq_ok_iff :
    (∃ rows, drafts.mapM row = .ok rows) ↔ ∀ d ∈ drafts, ∃ a, row d = .ok a := by
  induction drafts with
  | nil => simp [pure, Except.pure]
  | cons d rest ih =>
      rw [List.forall_mem_cons, ← ih]
      simp only [mapM_cons_eq_ok_iff]
      constructor
      · rintro ⟨-, a, others, ha, hothers, rfl⟩
        exact ⟨⟨a, ha⟩, others, hothers⟩
      · rintro ⟨⟨a, ha⟩, others, hothers⟩
        exact ⟨_, a, others, ha, hothers, rfl⟩

/-- Where a row gives its draft back, the rows give the drafts back. -/
private theorem map_draft_of_mapM {draft : α → δ} (hdraft : ∀ d a, row d = .ok a → draft a = d)
    (h : drafts.mapM row = .ok rows) : rows.map draft = drafts := by
  induction drafts generalizing rows with
  | nil => cases h; rfl
  | cons d rest ih =>
      obtain ⟨a, others, ha, hothers, rfl⟩ := mapM_cons_eq_ok_iff.mp h
      rw [List.map_cons, hdraft d a ha, ih hothers]

/-- Where the drafts of rows give the rows back, so does the whole list of drafts. -/
theorem mapM_map_draft {draft : α → δ} (h : ∀ a ∈ rows, row (draft a) = .ok a) :
    (rows.map draft).mapM row = .ok rows := by
  induction rows with
  | nil => rfl
  | cons a rest ih =>
      obtain ⟨hfirst, hrest⟩ := List.forall_mem_cons.mp h
      rw [List.map_cons, mapM_cons_eq_ok_iff]
      exact ⟨a, rest, hfirst, ih hrest, rfl⟩

theorem forall_mem_of_mapM {P : α → Prop} (hrow : ∀ d ∈ drafts, ∀ a, row d = .ok a → P a)
    (h : drafts.mapM row = .ok rows) : ∀ a ∈ rows, P a := by
  induction drafts generalizing rows with
  | nil => cases h; simp
  | cons d rest ih =>
      obtain ⟨a, others, ha, hothers, rfl⟩ := mapM_cons_eq_ok_iff.mp h
      obtain ⟨hfirst, hrest⟩ := List.forall_mem_cons.mp hrow
      exact List.forall_mem_cons.mpr ⟨hfirst a ha, ih hrest hothers⟩

end Insertions

namespace Index

/-- Insertions make their rows one after the other, and fail with the first that cannot be made. -/
private theorem foldlM_apply_map {δ α : Type} {write : δ → Write} {row : δ → Except IndexFailure α}
    {put : Index → α → Index} (hwrite : ∀ idx d, (write d).apply idx = (row d).map (put idx))
    (drafts : List δ) (idx : Index) :
    (drafts.map write).foldlM Write.apply idx =
      (drafts.mapM row).map fun rows => rows.foldl put idx := by
  induction drafts generalizing idx with
  | nil => rfl
  | cons d rest ih =>
      rw [List.map_cons, List.foldlM_cons, List.mapM_cons, hwrite]
      cases row d with
      | error failure => rfl
      | ok a =>
          change (rest.map write).foldlM Write.apply (put idx a) = _
          rw [ih]
          cases rest.mapM row <;> rfl

private theorem foldl_insert_symbols (rows : List Symbol) (idx : Index) :
    rows.foldl (fun idx s => { idx with symbols := idx.symbols.insert s }) idx =
      { idx with symbols := idx.symbols.insertAll rows } := by
  induction rows generalizing idx with
  | nil => rw [Table.insertAll_nil, List.foldl_nil]
  | cons s rest ih => rw [List.foldl_cons, ih, Table.insertAll_cons]

private theorem foldl_insert_relationships (rows : List Relationship) (idx : Index) :
    rows.foldl (fun idx r => { idx with relationships := idx.relationships.insert r }) idx =
      { idx with relationships := idx.relationships.insertAll rows } := by
  induction rows generalizing idx with
  | nil => rw [Table.insertAll_nil, List.foldl_nil]
  | cons r rest ih => rw [List.foldl_cons, ih, Table.insertAll_cons]

/-! ### Transactions -/

namespace Transaction

/-- A transaction in which a write failed does no other. -/
private theorem foldl_write_of_failure (t : Transaction) (h : t.failure ≠ none)
    (writes : List Write) :
    writes.foldl write t = t := by
  induction writes with
  | nil => rfl
  | cons w rest ih =>
      obtain ⟨failure, hfailure⟩ := Option.ne_none_iff_exists'.mp h
      have hwrite : t.write w = t := by simp only [write, hfailure]
      rw [List.foldl_cons, hwrite, ih]

/-- The writes of a transaction are all made, or the first that fails is its failure; what it keeps
for that case stays the same. -/
private theorem foldl_write (writes : List Write) (saved working : Index) :
    (∃ after, writes.foldlM Write.apply working = .ok after ∧
      writes.foldl write { saved, working } = { saved, working := after }) ∨
    ∃ failure left, writes.foldlM Write.apply working = .error failure ∧
      writes.foldl write { saved, working } =
        { saved, working := left, failure := some failure } := by
  induction writes generalizing working with
  | nil => exact .inl ⟨working, rfl, rfl⟩
  | cons w rest ih =>
      rw [List.foldlM_cons, List.foldl_cons]
      cases happly : w.apply working with
      | ok next =>
          have hwrite : write { saved, working } w = { saved, working := next } := by
            simp only [write, happly]
          rw [hwrite]
          exact ih next
      | error failure =>
          have hwrite : write { saved, working } w =
              { saved, working, failure := some failure } := by
            simp only [write, happly]
          rw [hwrite, foldl_write_of_failure _ (Option.some_ne_none failure)]
          exact .inr ⟨failure, working, rfl, rfl⟩

end Transaction

def replaced (path : String) (symbols : List Symbol) (relationships : List Relationship)
    (idx : Index) : Index :=
  { idx with
    symbols := (idx.symbols.eraseWhere fun s => s.filePath == path).insertAll symbols
    relationships := (idx.relationships.eraseWhere fun r => r.sourceFile == path).insertAll
      relationships }

/-- What the writes make of an index, from the rows alone. -/
private theorem foldlM_apply_analysis (path : String) (symbols : List SymbolDraft)
    (relationships : List RelationshipDraft) (idx : Index) :
    (Write.erase path ::
      (relationships.map Write.relationship ++ symbols.map (Write.symbol path))).foldlM
        Write.apply idx = (do
      let relationships ← relationships.mapM RelationshipDraft.row
      let symbols ← symbols.mapM (SymbolDraft.row path)
      return idx.replaced path symbols relationships) := by
  have herase : (Write.erase path).apply idx = .ok (idx.eraseAnalysis path) := rfl
  rw [List.foldlM_cons, herase]
  change (relationships.map Write.relationship ++ symbols.map (Write.symbol path)).foldlM
    Write.apply (idx.eraseAnalysis path) = _
  rw [List.foldlM_append, foldlM_apply_map fun _ _ => rfl]
  cases relationships.mapM RelationshipDraft.row with
  | error failure => rfl
  | ok relationshipRows =>
      change (symbols.map (Write.symbol path)).foldlM Write.apply _ = _
      rw [foldlM_apply_map fun _ _ => rfl]
      cases symbols.mapM (SymbolDraft.row path) with
      | error failure => simp [Except.map, bind, Except.bind]
      | ok symbolRows =>
          simp only [Except.map, bind, Except.bind, foldl_insert_symbols,
            foldl_insert_relationships]
          rfl

/-- A stored analysis made the rows of all drafts and put them in place of the old ones. One that
was not stored changed nothing, and there is a draft without a row. -/
theorem storeAnalysis_cases (path : String) (symbols : List SymbolDraft)
    (relationships : List RelationshipDraft) (idx : Index) :
    (∃ symbolRows relationshipRows, symbols.mapM (SymbolDraft.row path) = .ok symbolRows ∧
      relationships.mapM RelationshipDraft.row = .ok relationshipRows ∧
      (idx.storeAnalysis path symbols relationships).failure = none ∧
      (idx.storeAnalysis path symbols relationships).closed =
        idx.replaced path symbolRows relationshipRows) ∨
    (¬((∃ rows, symbols.mapM (SymbolDraft.row path) = .ok rows) ∧
        ∃ rows, relationships.mapM RelationshipDraft.row = .ok rows) ∧
      (idx.storeAnalysis path symbols relationships).failure ≠ none ∧
      (idx.storeAnalysis path symbols relationships).closed = idx) := by
  have hrun := foldlM_apply_analysis path symbols relationships idx
  unfold storeAnalysis
  simp only
  rcases Transaction.foldl_write _ idx idx with ⟨after, hok, ht⟩ | ⟨failure, left, herror, ht⟩
  · rw [ht]
    rw [hok] at hrun
    cases hrelationships : relationships.mapM RelationshipDraft.row with
    | error failure => simp [hrelationships, bind, Except.bind] at hrun
    | ok relationshipRows =>
        cases hsymbols : symbols.mapM (SymbolDraft.row path) with
        | error failure => simp [hrelationships, hsymbols, bind, Except.bind] at hrun
        | ok symbolRows =>
            rw [hrelationships, hsymbols] at hrun
            exact .inl ⟨symbolRows, relationshipRows, rfl, rfl, rfl, Except.ok.inj hrun⟩
  · rw [ht]
    rw [herror] at hrun
    refine .inr ⟨?_, Option.some_ne_none failure, rfl⟩
    rintro ⟨⟨symbolRows, hsymbols⟩, relationshipRows, hrelationships⟩
    rw [hrelationships, hsymbols] at hrun
    cases hrun

/-- The rows of a file are the given ones, in their order. All other rows are the same, with their
numbers, and so is the rest of the index. -/
structure Replaces (path : String) (symbols : List SymbolDraft)
    (relationships : List RelationshipDraft) (idx after : Index) : Prop where
  symbols : (after.symbols.values.filter fun s => s.filePath == path).map Symbol.draft = symbols
  relationships :
    (after.relationships.values.filter fun r => r.sourceFile == path).map Relationship.draft =
      relationships
  otherSymbols : after.symbols.eraseWhere (fun s => s.filePath == path) =
    idx.symbols.eraseWhere fun s => s.filePath == path
  otherRelationships : after.relationships.eraseWhere (fun r => r.sourceFile == path) =
    idx.relationships.eraseWhere fun r => r.sourceFile == path
  rest : after = { idx with symbols := after.symbols, relationships := after.relationships }

private theorem replaces_replaced {path : String} {symbols : List Symbol}
    {relationships : List Relationship} (hsymbols : ∀ s ∈ symbols, s.filePath = path)
    (hrelationships : ∀ r ∈ relationships, r.sourceFile = path) (idx : Index) :
    Replaces path (symbols.map Symbol.draft) (relationships.map Relationship.draft) idx
      (idx.replaced path symbols relationships) where
  symbols := by
    rw [replaced, Table.filter_values_replace_self _ _ fun s member =>
      beq_iff_eq.mpr (hsymbols s member)]
  relationships := by
    rw [replaced, Table.filter_values_replace_self _ _ fun r member =>
      beq_iff_eq.mpr (hrelationships r member)]
  otherSymbols := by
    rw [replaced, Table.eraseWhere_insertAll _ _ _ fun s member =>
      beq_iff_eq.mpr (hsymbols s member), Table.eraseWhere_eraseWhere]
  otherRelationships := by
    rw [replaced, Table.eraseWhere_insertAll _ _ _ fun r member =>
      beq_iff_eq.mpr (hrelationships r member), Table.eraseWhere_eraseWhere]
  rest := rfl

/-- The analysis of a file is stored if all its symbols and relationships fit. Its rows are then
those of the file, and all other rows are untouched. If one does not fit, the storing fails and the
index is as before, whatever was erased and put in until then. -/
theorem analysis_is_stored_whole_or_not_at_all (path : String) (symbols : List SymbolDraft)
    (relationships : List RelationshipDraft) (idx : Index)
    (hpath : ∀ d ∈ relationships, ∀ file, d.sourceFile = some file → file = path) :
    let stored := idx.storeAnalysis path symbols relationships
    (stored.failure = none ↔ (∀ d ∈ symbols, d.Fits) ∧ ∀ d ∈ relationships, d.Fits) ∧
      (stored.failure = none → Replaces path symbols relationships idx stored.closed) ∧
      (stored.failure ≠ none → stored.closed = idx) := by
  intro stored
  simp only [SymbolDraft.fits_iff path, RelationshipDraft.fits_iff, ← exists_mapM_eq_ok_iff]
  rcases idx.storeAnalysis_cases path symbols relationships with
    ⟨symbolRows, relationshipRows, hsymbols, hrelationships, hnone, hclosed⟩ |
      ⟨hrows, hfailure, hclosed⟩
  · refine ⟨iff_of_true hnone ⟨⟨_, hsymbols⟩, _, hrelationships⟩, fun _ => ?_,
      fun hfailure => absurd hnone hfailure⟩
    have hsymbolDrafts : symbolRows.map Symbol.draft = symbols :=
      map_draft_of_mapM (fun d s h => (SymbolDraft.row_eq_ok_iff.mp h).2.1) hsymbols
    have hrelationshipDrafts : relationshipRows.map Relationship.draft = relationships :=
      map_draft_of_mapM (fun d r h => (RelationshipDraft.row_eq_ok_iff.mp h).2) hrelationships
    have hinFile : ∀ s ∈ symbolRows, s.filePath = path :=
      forall_mem_of_mapM (fun d _ s h => (SymbolDraft.row_eq_ok_iff.mp h).2.2) hsymbols
    have hfromFile : ∀ r ∈ relationshipRows, r.sourceFile = path := by
      refine forall_mem_of_mapM (fun d member r h => ?_) hrelationships
      obtain ⟨-, rfl⟩ := RelationshipDraft.row_eq_ok_iff.mp h
      exact hpath _ member r.sourceFile rfl
    change Replaces path symbols relationships idx (idx.storeAnalysis path symbols _).closed
    rw [hclosed, ← hsymbolDrafts, ← hrelationshipDrafts]
    exact replaces_replaced hinFile hfromFile idx
  · exact ⟨iff_of_false hfailure hrows, fun hnone => absurd hnone hfailure, fun _ => hclosed⟩

def twoFiles : Index :=
  { symbols := ⟨[
      (1, { name := "f", kind := .function, filePath := "a.py", lineStart := 1, lineEnd := 2 }),
      (2, { name := "g", kind := .function, filePath := "b.py", lineStart := 1, lineEnd := 2 })]⟩
    relationships := ⟨[
      (1, { sourceFile := "a.py", source := "f", line := 2, target := "g", kind := .calls })]⟩ }

/-- The last of the new rows has no name. When it fails the old function of the file is gone from
the working copy and a new one is there; after the transaction all is as before. Without that row
the new ones are stored. -/
theorem nameless_symbol_takes_stored_rows_back :
    let h : SymbolDraft :=
      { name := some "h", kind := some .function, lineStart := some 1, lineEnd := some 3 }
    let call : RelationshipDraft :=
      { sourceFile := some "a.py", source := some "h", line := some 2, target := some "g",
        kind := some .calls }
    let stored := twoFiles.storeAnalysis "a.py" [h, { h with name := none }] [call]
    stored.working.symbols.values.map Symbol.name = ["g", "h"] ∧
      stored.working.relationships.values.map Relationship.source = ["h"] ∧
      stored.failure = some .constraint ∧ stored.closed = twoFiles ∧
      Replaces "a.py" [h] [call] twoFiles (twoFiles.storeAnalysis "a.py" [h] [call]).closed := by
  intro h call stored
  have hpath : ∀ d ∈ [call], ∀ file, d.sourceFile = some file → file = "a.py" := by
    intro d member file hfile
    obtain rfl := List.mem_singleton.mp member
    exact (Option.some.inj hfile).symm
  have hfailure : stored.failure = some .constraint := by decide
  obtain ⟨-, -, hback⟩ := analysis_is_stored_whole_or_not_at_all "a.py"
    [h, { h with name := none }] [call] twoFiles hpath
  obtain ⟨-, hkept, -⟩ := analysis_is_stored_whole_or_not_at_all "a.py" [h] [call] twoFiles hpath
  refine ⟨by decide, by decide, hfailure, hback ?_, hkept (by decide)⟩
  rw [hfailure]
  exact Option.some_ne_none _

end Index

end CodeIndex
