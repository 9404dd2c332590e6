import CodeIndex.Proofs.Locality
import CodeIndex.Proofs.Run

/-!
Which version of a file the call graph describes.

The symbols and relationships of a file are replaced only when something is extracted from its new
text. If the text is too long, or its analysis breaks, fails or cannot be written, the old ones
stay, although the record is completed under the digest of the new text, and since the text is
current from then on no later attempt repairs them. So the call graph has a file as it was in the
newest version from which something was extracted. `History` carries the versions of a run along;
`Recounts` is what every step keeps of them. The main result says exactly when the call graph is
that of the last version.
-/

namespace CodeIndex

@[ext]
structure CallGraph where
  symbols : List Symbol := []
  relationships : List Relationship := []
  deriving DecidableEq, Repr

def Analysis.callGraph (a : Analysis) : CallGraph :=
  ⟨a.symbols, a.relationships⟩

def Analysis.isWritable (a : Analysis) : Bool :=
  a.symbols.all (fun s => s.draft.unwritable?.isNone) &&
    a.relationships.all fun r => r.draft.unwritable?.isNone

namespace Indexer

/-- The analysis of a text of a file, unless files are not analysed, the text is too long, or the
analysis breaks or fails. -/
def analysis? (indexer : Indexer) (path : String) (content : List Char) : Option Analysis :=
  match indexer.analyzer with
  | none => none
  | some analyzer =>
    if indexer.settings.enableAnalysis &&
        (content.length : Int) ≤ indexer.settings.analysisLimit then
      match analyzer path (String.ofList content) with
      | .error _ => none
      | .ok analysis =>
        match analysis.error? with
        | some _ => none
        | none => some analysis
    else none

def extracted? (indexer : Indexer) (path : String) (content : List Char) : Option Analysis :=
  (indexer.analysis? path content).filter Analysis.isWritable

/-- The analysis of a file speaks of that file only. -/
def IsLocal (indexer : Indexer) : Prop :=
  ∀ analyzer, indexer.analyzer = some analyzer → ∀ path content analysis,
    analyzer path content = .ok analysis → LieIn path analysis.symbols analysis.relationships

end Indexer

/-- Every analyzer of a workspace speaks of the file that it is given. -/
theorem Workspace.indexer_isLocal (w : Workspace) : w.indexer.IsLocal := by
  intro analyzer hanalyzer path content analysis hanalysis
  obtain ⟨kind, -, rfl⟩ := Option.map_eq_some_iff.mp hanalyzer
  cases kind with
  | source =>
      rw [← Except.ok.inj hanalysis]
      exact Source.analyze_lieIn path content
  | tree =>
      rw [← Except.ok.inj hanalysis]
      exact Concrete.analyze_lieIn path content _
  | broken => cases hanalysis

namespace Index

def callGraph (path : String) (idx : Index) : CallGraph :=
  { symbols := idx.symbols.values.filter fun s => s.filePath == path
    relationships := idx.relationships.values.filter fun r => r.sourceFile == path }

section Store

variable {indexer : Indexer} {path other : String} {content : List Char} {idx after : Index}

theorem callGraph_congr (hsymbols : after.symbols = idx.symbols)
    (hrelationships : after.relationships = idx.relationships) (path : String) :
    after.callGraph path = idx.callGraph path := by
  rw [callGraph, callGraph, hsymbols, hrelationships]

def redrawn (path : String) (analysis : Analysis) (idx : Index) : Index :=
  idx.replaced path analysis.symbols analysis.relationships

private theorem mapM_rows_of_writable {analysis : Analysis}
    (h : LieIn path analysis.symbols analysis.relationships)
    (hwritable : analysis.isWritable = true) :
    (analysis.symbols.map Symbol.draft).mapM (SymbolDraft.row path) = .ok analysis.symbols ∧
      (analysis.relationships.map Relationship.draft).mapM RelationshipDraft.row =
        .ok analysis.relationships := by
  simp only [Analysis.isWritable, Bool.and_eq_true, List.all_eq_true,
    Option.isNone_iff_eq_none] at hwritable
  constructor
  · refine mapM_map_draft fun s member => ?_
    exact SymbolDraft.row_eq_ok_iff.mpr ⟨hwritable.1 s member, rfl, h.symbols s member⟩
  · refine mapM_map_draft fun r member => ?_
    exact RelationshipDraft.row_eq_ok_iff.mpr ⟨hwritable.2 r member, rfl⟩

private theorem isWritable_of_mapM_rows {analysis : Analysis}
    (hsymbols : ∃ rows, (analysis.symbols.map Symbol.draft).mapM (SymbolDraft.row path) = .ok rows)
    (hrelationships : ∃ rows,
      (analysis.relationships.map Relationship.draft).mapM RelationshipDraft.row = .ok rows) :
    analysis.isWritable = true := by
  simp only [Analysis.isWritable, Bool.and_eq_true, List.all_eq_true, Option.isNone_iff_eq_none]
  constructor
  · intro s member
    obtain ⟨row, hrow⟩ := exists_mapM_eq_ok_iff.mp hsymbols _ (List.mem_map_of_mem member)
    exact (SymbolDraft.row_eq_ok_iff.mp hrow).1
  · intro r member
    obtain ⟨row, hrow⟩ := exists_mapM_eq_ok_iff.mp hrelationships _ (List.mem_map_of_mem member)
    exact (RelationshipDraft.row_eq_ok_iff.mp hrow).1

/-- The analysis of a file is stored if it can be written, and leaves the index alone if not. -/
private theorem closed_storeAnalysis {analysis : Analysis} (idx : Index)
    (h : LieIn path analysis.symbols analysis.relationships) :
    (idx.storeAnalysis path (analysis.symbols.map Symbol.draft)
      (analysis.relationships.map Relationship.draft)).closed =
        if analysis.isWritable then idx.redrawn path analysis else idx := by
  rcases idx.storeAnalysis_cases path (analysis.symbols.map Symbol.draft)
      (analysis.relationships.map Relationship.draft) with
    ⟨symbolRows, relationshipRows, hsymbols, hrelationships, -, hclosed⟩ | ⟨hnone, -, hclosed⟩
  · have hwritable := isWritable_of_mapM_rows ⟨_, hsymbols⟩ ⟨_, hrelationships⟩
    obtain ⟨hown, hownRelationships⟩ := mapM_rows_of_writable h hwritable
    obtain rfl := Except.ok.inj (hsymbols.symm.trans hown)
    obtain rfl := Except.ok.inj (hrelationships.symm.trans hownRelationships)
    rw [hclosed, if_pos hwritable, redrawn]
  · have hwritable : ¬analysis.isWritable = true := by
      intro hwritable
      obtain ⟨hsymbols, hrelationships⟩ := mapM_rows_of_writable h hwritable
      exact hnone ⟨⟨_, hsymbols⟩, _, hrelationships⟩
    rw [hclosed, if_neg hwritable]

/-- An analysis redraws the call graph of a file if something is extracted, and leaves it alone if
not. -/
theorem analyze_cases (hlocal : indexer.IsLocal) (path : String) (content : List Char)
    (idx : Index) :
    (indexer.extracted? path content = none ∧ idx.analyze indexer path content = idx) ∨
    ∃ found, indexer.extracted? path content = some found ∧
      LieIn path found.symbols found.relationships ∧
      idx.analyze indexer path content = idx.redrawn path found := by
  unfold analyze Indexer.extracted? Indexer.analysis?
  cases hanalyzer : indexer.analyzer with
  | none => exact Or.inl ⟨rfl, rfl⟩
  | some analyzer =>
      simp only
      split
      · cases hfound : analyzer path (String.ofList content) with
        | error message => exact Or.inl ⟨rfl, rfl⟩
        | ok found =>
            have hlies := hlocal analyzer hanalyzer path _ found hfound
            cases herror : found.error? with
            | some text =>
                simp only [herror, Option.filter_none]
                exact Or.inl ⟨trivial, trivial⟩
            | none =>
                simp only [herror, Option.filter_some]
                rw [closed_storeAnalysis idx hlies]
                cases found.isWritable with
                | true => exact Or.inr ⟨found, rfl, hlies, rfl⟩
                | false => exact Or.inl ⟨rfl, rfl⟩
      · exact Or.inl ⟨rfl, rfl⟩

theorem callGraph_redrawn_self {found : Analysis}
    (h : LieIn path found.symbols found.relationships) :
    (idx.redrawn path found).callGraph path = found.callGraph := by
  have hsymbols := idx.symbols.filter_values_replace_self (fun s => s.filePath == path)
    fun s member => beq_iff_eq.mpr (h.symbols s member)
  have hrelationships := idx.relationships.filter_values_replace_self
    (fun r => r.sourceFile == path) fun r member => beq_iff_eq.mpr (h.relationships r member)
  exact CallGraph.ext hsymbols hrelationships

private theorem callGraph_redrawn_other {found : Analysis} (hother : other ≠ path)
    (h : LieIn path found.symbols found.relationships) :
    (idx.redrawn path found).callGraph other = idx.callGraph other := by
  have hsymbols := idx.symbols.filter_values_replace_other (fun s => s.filePath == path)
    (fun s member => beq_iff_eq.mpr (h.symbols s member))
    fun s => distinct_paths hother s.filePath
  have hrelationships := idx.relationships.filter_values_replace_other
    (fun r => r.sourceFile == path) (fun r member => beq_iff_eq.mpr (h.relationships r member))
    fun r => distinct_paths hother r.sourceFile
  exact CallGraph.ext hsymbols hrelationships

end Store

section Attempt

variable {indexer : Indexer} {path : String} {idx before after : Index}

structure Keeps (path : String) (idx after : Index) : Prop where
  symbols : after.symbols = idx.symbols
  relationships : after.relationships = idx.relationships
  others : ∀ other, other ≠ path → after.record? other = idx.record? other

private theorem Keeps.refl (path : String) (idx : Index) : Keeps path idx idx :=
  ⟨rfl, rfl, fun _ _ => rfl⟩

private theorem Keeps.updateRecord (h : Keeps path idx before) (f : Record → Record)
    (hpath : ∀ r, (f r).path = r.path) : Keeps path idx (before.updateRecord path f) := by
  have hfields : (before.updateRecord path f).symbols = before.symbols ∧
      (before.updateRecord path f).relationships = before.relationships := by
    unfold Index.updateRecord
    split <;> exact ⟨rfl, rfl⟩
  refine ⟨hfields.1.trans h.symbols, hfields.2.trans h.relationships, ?_⟩
  intro other hother
  exact ((before.updateRecord_sameBut path f hpath).record?_eq hother).trans (h.others other hother)

private theorem Keeps.chunkStore (h : Keeps path idx before) (chunkStore : ChunkStore) :
    Keeps path idx { before with chunkStore } :=
  ⟨h.symbols, h.relationships, h.others⟩

theorem record?_analyze (indexer : Indexer) (path : String) (content : List Char) (idx : Index)
    (other : String) : (idx.analyze indexer path content).record? other = idx.record? other := by
  obtain ⟨symbols, relationships, hanalyze⟩ := analyze_eq indexer path content idx
  rw [hanalyze]
  rfl

/-- The text of a file that an attempt to index it takes in: one that is read, is not current and
does not fail. -/
def taken? (indexer : Indexer) (files : Files) (path : String) (idx : Index) :
    Option (List Char) :=
  match files.readText path with
  | .error _ => none
  | .ok content =>
    if (idx.indexFile indexer files path).success && !idx.isCurrent path (textDigest content) then
      some content
    else none

/-- What an attempt does to the call graph and to the record of its file, by the text it takes in.
Without one the call graph stays, and a record is completed only if it was before. With one the
record has its digest, and the call graph is left to the analysis. -/
inductive Intake (indexer : Indexer) (path : String) (idx after : Index) :
    Option (List Char) → Prop where
  | refused (hkeeps : Keeps path idx after)
      (hrecord : ∀ r, after.record? path = some r → r.status = .completed →
        idx.record? path = some r) :
      Intake indexer path idx after none
  | taken (content : List Char) (before : Index) (hkeeps : Keeps path idx before)
      (hanalyzed : after = before.analyze indexer path content)
      (hrecord : ∃ r, before.record? path = some r ∧ r.digest = textDigest content) :
      Intake indexer path idx after (some content)

private theorem Keeps.fail_refused (h : Keeps path idx before) (message : String) :
    Intake indexer path idx (before.fail path message) none := by
  refine .refused (h.updateRecord _ fun _ => rfl) ?_
  intro r hr hcompleted
  rw [record?_fail] at hr
  cases hr
  cases hcompleted

private theorem Keeps.complete_taken (h : Keeps path idx before) (content : List Char)
    (count : Nat) :
    Intake indexer path idx
      ((before.complete path (textDigest content) count).analyze indexer path content)
      (some content) := by
  let finish : Record → Record := fun r =>
    { r with
      digest := textDigest content, status := .completed, chunkCount := count, error := none,
      indexed := true }
  have hrecord := before.record?_updateRecord path finish fun _ => rfl
  exact .taken content (before.complete path (textDigest content) count)
    (h.updateRecord finish fun _ => rfl) rfl ⟨_, hrecord, rfl⟩

private theorem indexText_intake (indexer : Indexer) (path : String) (content : List Char)
    (idx : Index) :
    let outcome := idx.indexText indexer path content
    Intake indexer path idx outcome.index (if outcome.success then some content else none) := by
  have hstart : Keeps path idx (idx.start path) :=
    (Keeps.refl path idx).updateRecord _ fun _ => rfl
  have hcleared : Keeps path idx (idx.cleared path) := hstart.chunkStore _
  rcases indexText_cases indexer path content idx with
    heq | ⟨message, heq⟩ | ⟨chunks, ids, chunkStore, -, -, heq⟩
  · rw [heq]
    exact hstart.fail_refused _
  · rw [heq]
    exact hcleared.fail_refused message
  · rw [heq]
    exact (hcleared.chunkStore chunkStore).complete_taken content chunks.length

/-- Every attempt to index a file, whatever the files hold and whatever fails. -/
theorem indexFile_intake (indexer : Indexer) (files : Files) (path : String) (idx : Index) :
    Intake indexer path idx (idx.indexFile indexer files path).index
      (idx.taken? indexer files path) := by
  have hsame : Intake indexer path idx idx none := .refused (.refl path idx) fun _ hr _ => hr
  cases hread : files.readText path with
  | error failure =>
      simp only [taken?, indexFile, hread]
      split
      · exact (Keeps.refl path idx).fail_refused _
      · exact hsame
  | ok content =>
      have hexists := Files.exists?_of_readText hread
      have htext := indexText_intake indexer path content idx
      cases hcurrent : idx.isCurrent path (textDigest content) with
      | true => simpa [taken?, indexFile, hread, hexists, hcurrent] using hsame
      | false => simpa [taken?, indexFile, hread, hexists, hcurrent] using htext

end Attempt

end Index

/-- A text of a file that was taken in, with what was extracted from it at that time. -/
structure Version where
  path : String
  content : List Char
  extracted : Option Analysis

namespace Version

def callGraph (v : Version) : CallGraph :=
  (v.extracted.map Analysis.callGraph).getD {}

def lastCallGraph (versions : List Version) : CallGraph :=
  ((versions.findSome? extracted).map Analysis.callGraph).getD {}

def ofPath (path : String) (versions : List Version) : List Version :=
  versions.filter fun v => v.path == path

private theorem ofPath_cons_self (v : Version) (versions : List Version) :
    ofPath v.path (v :: versions) = v :: ofPath v.path versions := by
  simp [ofPath]

private theorem ofPath_cons_other {v : Version} {path : String} (h : path ≠ v.path)
    (versions : List Version) : ofPath path (v :: versions) = ofPath path versions := by
  simp [ofPath, Ne.symm h]

private theorem lastCallGraph_cons (v : Version) (older : List Version) :
    lastCallGraph (v :: older) =
      match v.extracted with
      | some found => found.callGraph
      | none => lastCallGraph older := by
  unfold lastCallGraph
  rw [List.findSome?_cons]
  cases v.extracted <;> rfl

end Version

namespace Index

def version? (indexer : Indexer) (files : Files) (path : String) (idx : Index) : Option Version :=
  (idx.taken? indexer files path).map fun content =>
    ⟨path, content, indexer.extracted? path content⟩

/-- The index as the versions that were taken in, the newest first, account for it: the call graph
has each file as it was when something was last extracted from it, and a record that is completed
has the digest of the last version. -/
structure Recounts (versions : List Version) (idx : Index) : Prop where
  callGraph : ∀ path, idx.callGraph path = Version.lastCallGraph (Version.ofPath path versions)
  completed : ∀ path r, idx.record? path = some r → r.status = .completed →
    ∃ v older, Version.ofPath path versions = v :: older ∧ textDigest v.content = r.digest

variable {versions : List Version} {indexer : Indexer} {path : String} {idx after : Index}

private theorem recounts_empty : Recounts [] {} := by
  refine ⟨fun _ => rfl, ?_⟩
  intro path r hrecord
  cases hrecord

/-- A step that takes no text in needs no new version. -/
theorem Recounts.refused (h : Recounts versions idx) (hkeeps : Keeps path idx after)
    (hrecord : ∀ r, after.record? path = some r → r.status = .completed →
      idx.record? path = some r) : Recounts versions after := by
  refine ⟨?_, ?_⟩
  · intro other
    rw [callGraph_congr hkeeps.symbols hkeeps.relationships]
    exact h.callGraph other
  · intro other r hr hcompleted
    by_cases hother : other = path
    · subst hother
      exact h.completed other r (hrecord r hr hcompleted) hcompleted
    · rw [hkeeps.others other hother] at hr
      exact h.completed other r hr hcompleted

/-- The newest version accounts for the index after its analysis, also if nothing is extracted from
it. -/
theorem Recounts.taken (h : Recounts versions idx) (hlocal : indexer.IsLocal)
    {content : List Char} {before : Index} (hkeeps : Keeps path idx before)
    (hrecord : ∃ r, before.record? path = some r ∧ r.digest = textDigest content) :
    Recounts (⟨path, content, indexer.extracted? path content⟩ :: versions)
      (before.analyze indexer path content) := by
  let v : Version := ⟨path, content, indexer.extracted? path content⟩
  have hbefore (other : String) :
      before.callGraph other = Version.lastCallGraph (Version.ofPath other versions) := by
    rw [callGraph_congr hkeeps.symbols hkeeps.relationships]
    exact h.callGraph other
  refine ⟨?_, ?_⟩
  · intro other
    by_cases hother : other = path
    · -- Where nothing is extracted the rows of an older version stay, and that one still counts.
      subst hother
      rw [Version.ofPath_cons_self v, Version.lastCallGraph_cons]
      rcases analyze_cases hlocal other content before with
        ⟨hnone, hsame⟩ | ⟨found, hfound, hlies, hredrawn⟩
      · simp only [v, hnone, hsame]
        exact hbefore other
      · simp only [v, hfound, hredrawn]
        exact callGraph_redrawn_self hlies
    · have hv : other ≠ v.path := hother
      rw [Version.ofPath_cons_other hv]
      rcases analyze_cases hlocal path content before with
        ⟨-, hsame⟩ | ⟨found, -, hlies, hredrawn⟩
      · rw [hsame]
        exact hbefore other
      · rw [hredrawn, callGraph_redrawn_other hother hlies]
        exact hbefore other
  · intro other r hr hcompleted
    rw [record?_analyze] at hr
    by_cases hother : other = path
    · subst hother
      obtain ⟨known, hknown, hdigest⟩ := hrecord
      rw [hknown] at hr
      cases hr
      exact ⟨v, _, Version.ofPath_cons_self v versions, hdigest.symm⟩
    · have hv : other ≠ v.path := hother
      rw [hkeeps.others other hother] at hr
      rw [Version.ofPath_cons_other hv]
      exact h.completed other r hr hcompleted

/-- An attempt is accounted for by the version that it takes in, if there is one. -/
theorem Recounts.indexFile (h : Recounts versions idx) (hlocal : indexer.IsLocal) (files : Files)
    (path : String) :
    Recounts ((idx.version? indexer files path).toList ++ versions)
      (idx.indexFile indexer files path).index := by
  have hintake := indexFile_intake indexer files path idx
  unfold version?
  generalize idx.taken? indexer files path = content at hintake ⊢
  cases hintake with
  | refused hkeeps hrecord => exact h.refused hkeeps hrecord
  | taken content before hkeeps hanalyzed hrecord =>
      rw [hanalyzed]
      exact h.taken hlocal hkeeps hrecord

/-- Deleting a file leaves the call graph of it behind. -/
theorem Recounts.eraseFile (h : Recounts versions idx) (path : String) :
    Recounts versions (idx.eraseFile path) := by
  have hkeeps : Keeps path idx (idx.eraseFile path) := by
    refine ⟨rfl, rfl, ?_⟩
    intro other hother
    exact idx.records.find?_eraseWhere _ _ fun r => distinct_paths hother r.path
  refine h.refused hkeeps ?_
  intro r hr
  rw [record?_eraseFile] at hr
  cases hr

private theorem Recounts.summarizeFiles (h : Recounts versions idx) (indexer : Indexer)
    (tasks : List SummaryTask) : Recounts versions (idx.summarizeFiles indexer tasks) := by
  obtain ⟨summaries, summaryStore, heq⟩ := summarizeFiles_eq indexer tasks idx
  rw [heq]
  exact ⟨h.callGraph, h.completed⟩

end Index

namespace Workspace

/-- The runs from an empty index on, with the versions of files that they take in, the newest
first. Between two steps all but the index may change. -/
inductive History : List Version → Workspace → Prop where
  | empty {w : Workspace} (hindex : w.index = {}) : History [] w
  | surroundings {versions : List Version} {w after : Workspace} (h : History versions w)
      (hindex : after.index = w.index) : History versions after
  | indexFile {versions : List Version} {w : Workspace} (path : String) (h : History versions w) :
      History ((w.index.version? w.indexer w.files path).toList ++ versions) (w.indexFile path).2
  | deleteFile {versions : List Version} {w : Workspace} (path : String) (h : History versions w) :
      History versions (w.deleteFile path).2
  | summarizeFiles {versions : List Version} {w : Workspace} (tasks : List SummaryTask)
      (h : History versions w) : History versions (w.summarizeFiles tasks)

variable {versions : List Version} {w : Workspace}

/-- The versions that a run takes in account for the index at every time. -/
theorem History.recounts (h : History versions w) : w.index.Recounts versions := by
  induction h with
  | empty hindex =>
      rw [hindex]
      exact Index.recounts_empty
  | surroundings _ hindex ih =>
      rw [hindex]
      exact ih
  | indexFile path _ ih =>
      rw [indexFile_index]
      exact ih.indexFile (indexer_isLocal _) _ path
  | @deleteFile _ w path _ ih =>
      rcases w.deleteFile_cases path with heq | heq
      · rw [heq]
        exact ih.eraseFile path
      · rwa [heq]
  | summarizeFiles tasks _ ih =>
      rw [summarizeFiles_index]
      exact ih.summarizeFiles _ tasks

/-- The call graph has a file as it was in the newest version from which something was extracted.
Where the record is completed, that is the version with the digest of the record exactly if
something was extracted from it, or if there was nothing to replace. -/
theorem call_graph_is_of_indexed_version_iff (h : History versions w) (path : String) (r : Record)
    (hrecord : w.index.record? path = some r) (hcompleted : r.status = .completed) :
    ∃ v older, Version.ofPath path versions = v :: older ∧ textDigest v.content = r.digest ∧
      w.index.callGraph path = Version.lastCallGraph (v :: older) ∧
      (w.index.callGraph path = v.callGraph ↔
        v.extracted.isSome = true ∨ Version.lastCallGraph older = {}) := by
  have hrecounts := h.recounts
  obtain ⟨v, older, hversions, hdigest⟩ := hrecounts.completed path r hrecord hcompleted
  have hgraph := hrecounts.callGraph path
  rw [hversions] at hgraph
  refine ⟨v, older, hversions, hdigest, hgraph, ?_⟩
  rw [hgraph, Version.lastCallGraph_cons, Version.callGraph]
  cases v.extracted with
  | none => simp
  | some found => simp

/-- A file that could not be parsed at first is indexed again after its repair. -/
theorem call_graph_is_of_indexed_version_after_repair :
    let text := "def f():\n g()".toList
    let first : Workspace :=
      { files := { contents := [("a.py", Text.Utf8.encode "(".toList)] }
        window := ⟨40, 10⟩
        analyzer := some .source }
    let repaired : Workspace :=
      { (first.indexFile "a.py").2 with
        files := { contents := [("a.py", Text.Utf8.encode text)] } }
    let last := (repaired.indexFile "a.py").2
    ∃ (r : Record) (v : Version), last.index.record? "a.py" = some r ∧ r.status = .completed ∧
      textDigest v.content = r.digest ∧ last.index.callGraph "a.py" = v.callGraph ∧
      v.callGraph ≠ {} := by
  intro text first repaired last
  let versions := (repaired.index.version? repaired.indexer repaired.files "a.py").toList ++
    ((first.index.version? first.indexer first.files "a.py").toList ++ [])
  have hhistory : History versions last :=
    .indexFile "a.py" (.surroundings (.indexFile "a.py" (.empty rfl)) rfl)
  obtain ⟨hcurrent, hextracted, hdrawn⟩ :
      last.index.isCurrent "a.py" (textDigest text) = true ∧
        (Version.ofPath "a.py" versions).head?.any (fun v => v.extracted.isSome) = true ∧
        last.index.callGraph "a.py" ≠ {} := by
    decide +kernel
  obtain ⟨r, hrecord, -, hcompleted⟩ := Index.isCurrent_eq_true_iff.mp hcurrent
  obtain ⟨v, older, hversions, hdigest, -, hiff⟩ :=
    call_graph_is_of_indexed_version_iff hhistory "a.py" r hrecord hcompleted
  rw [hversions] at hextracted
  have hgraph := hiff.mpr (Or.inl hextracted)
  rw [hgraph] at hdrawn
  exact ⟨r, v, hrecord, hcompleted, hdigest, hgraph, hdrawn⟩

/-- A text that can be analysed gives way to one that cannot be parsed. The record is completed
under the digest of the second, and the call graph still has the function of the first. -/
theorem call_graph_outlives_indexed_version :
    let text := "def f():\n g()".toList
    let first : Workspace :=
      { files := { contents := [("a.py", Text.Utf8.encode text)] }
        window := ⟨40, 10⟩
        analyzer := some .source }
    let broken : Workspace :=
      { (first.indexFile "a.py").2 with
        files := { contents := [("a.py", Text.Utf8.encode "(".toList)] } }
    let last := (broken.indexFile "a.py").2
    last.index.isCurrent "a.py" (textDigest "(".toList) = true ∧
      last.indexer.extracted? "a.py" "(".toList = none ∧
      last.index.callGraph "a.py" = (Source.analyze "a.py" (String.ofList text)).callGraph ∧
      last.index.callGraph "a.py" ≠ {} := by
  decide +kernel

end Workspace

end CodeIndex
