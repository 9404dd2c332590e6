import CodeIndex.Index.Query
import CodeIndex.Proofs.CallGraph
import CodeIndex.Proofs.Nesting

/-!
What the questions for callers and callees say of the calls in the index.

Both questions go over the same relationships, from either end, so they list each call equally
often; and since indexing a file redraws its part of the call graph, they list the calls that were
extracted from it. A caller is described by a symbol, though, which is looked up by file and name
alone. Around each call stands a symbol of that name, but it is not always the one that is found.
-/

namespace CodeIndex

theorem limited_of_length_le {α : Type} {limit : Int} {rows : List α}
    (h : (rows.length : Int) ≤ limit) : limited limit rows = rows := by
  unfold limited
  rw [if_neg (by omega), List.take_of_length_le (by omega)]

private theorem mem_of_mem_limited {α : Type} {limit : Int} {rows : List α} {a : α}
    (member : a ∈ limited limit rows) : a ∈ rows := by
  unfold limited at member
  split at member
  · exact member
  · exact List.mem_of_mem_take member

def Relationship.isCall (source target : String) (line : Nat) (r : Relationship) : Bool :=
  r.kind == .calls && r.source == source && r.target == target && r.line == line

namespace Index

/-- A question with the limit has an answer, and none of the relationships is cut off from it. -/
structure Admits (idx : Index) (limit : Int) : Prop where
  covers : (idx.relationships.values.length : Int) ≤ limit
  fits : isLimit limit = true

section Counts

variable {idx : Index} {limit : Int}

private theorem Admits.limited_relationshipsOf (h : idx.Admits limit) (kind : RelationshipKind)
    (p : Relationship → Bool) :
    limited limit (idx.relationshipsOf kind p) = idx.relationshipsOf kind p := by
  have hfewer : (idx.relationshipsOf kind p).length ≤ idx.relationships.values.length :=
    List.length_filter_le _ _
  exact limited_of_length_le (Int.le_trans (Int.ofNat_le.mpr hfewer) h.covers)

private theorem Admits.callers_eq (h : idx.Admits limit) (symbol : String) :
    idx.callers symbol limit =
      .ok ((idx.relationshipsOf .calls fun r => r.target == symbol).map idx.callerOf) := by
  rw [callers, if_pos h.fits, h.limited_relationshipsOf]

private theorem Admits.callees_eq (h : idx.Admits limit) (symbol : String) :
    idx.callees symbol limit =
      .ok ((idx.relationshipsOf .calls fun r => r.source == symbol).map calleeOf) := by
  rw [callees, if_pos h.fits, h.limited_relationshipsOf]

/-- The items of an answer that are as wanted, counted in the table. -/
private theorem countP_map_relationshipsOf {β : Type} (kind : RelationshipKind)
    (p : Relationship → Bool) (view : Relationship → β) (wanted : β → Bool) :
    ((idx.relationshipsOf kind p).map view).countP wanted =
      idx.relationships.values.countP fun r => wanted (view r) && (p r && r.kind == kind) := by
  rw [List.countP_map, relationshipsOf, List.countP_filter]
  rfl

private theorem countP_callers (source target : String) (line : Nat) :
    ((idx.relationshipsOf .calls fun r => r.target == target).map idx.callerOf).countP
        (fun c => c.name == source && c.line == line) =
      idx.relationships.values.countP (Relationship.isCall source target line) := by
  rw [countP_map_relationshipsOf]
  congr 1
  funext r
  simp only [callerOf, Relationship.isCall]
  ac_rfl

private theorem countP_callees (source target : String) (line : Nat) :
    ((idx.relationshipsOf .calls fun r => r.source == source).map calleeOf).countP
        (fun c => c.name == target && c.line == line) =
      idx.relationships.values.countP (Relationship.isCall source target line) := by
  rw [countP_map_relationshipsOf]
  congr 1
  funext r
  simp only [calleeOf, Relationship.isCall]
  ac_rfl

private theorem countP_callers_in (path source target : String) (line : Nat) :
    ((idx.relationshipsOf .calls fun r => r.target == target).map idx.callerOf).countP
        (fun c => c.name == source && c.file == path && c.line == line) =
      (idx.callGraph path).relationships.countP (Relationship.isCall source target line) := by
  rw [countP_map_relationshipsOf, callGraph, List.countP_filter]
  congr 1
  funext r
  simp only [callerOf, Relationship.isCall]
  ac_rfl

end Counts

/-- Indexing a file draws its part of the call graph as it was extracted, or leaves it as it was. -/
private theorem callGraph_indexFile {indexer : Indexer} (hlocal : indexer.IsLocal) {files : Files}
    {path : String} {content : List Char} {idx : Index}
    (htaken : idx.taken? indexer files path = some content) :
    (idx.indexFile indexer files path).index.callGraph path =
      match indexer.extracted? path content with
      | some found => found.callGraph
      | none => idx.callGraph path := by
  have hintake := indexFile_intake indexer files path idx
  rw [htaken] at hintake
  cases hintake with
  | taken _ before hkeeps hanalyzed _ =>
      rw [hanalyzed]
      rcases analyze_cases hlocal path content before with
        ⟨hnone, hsame⟩ | ⟨found, hfound, hlies, hredrawn⟩
      · rw [hnone, hsame]
        exact callGraph_congr hkeeps.symbols hkeeps.relationships path
      · rw [hfound, hredrawn]
        exact callGraph_redrawn_self hlies

private theorem callers_eq_error (idx : Index) {limit : Int} (h : isLimit limit = false)
    (symbol : String) : idx.callers symbol limit = .error .limitTooLarge := by
  simp only [callers, h]
  rfl

private theorem callees_eq_error (idx : Index) {limit : Int} (h : isLimit limit = false)
    (symbol : String) : idx.callees symbol limit = .error .limitTooLarge := by
  simp only [callees, h]
  rfl

end Index

namespace Workspace

/-- With limits that leave nothing out, the callers of `g` have `f` on a line as often as the
callees of `f` have `g` on it; limits beyond 64 bits give no answer. After a file was taken in and
its analysis did not fail, the callers have its calls as often as they were found in it, if the
analysis could be written, and else as often as the calls of the file before. -/
theorem callers_and_callees_list_stored_calls (w : Workspace) (f g : String) (line : Nat) :
    (∀ callerLimit calleeLimit, w.index.Admits callerLimit → w.index.Admits calleeLimit →
      ∃ callers callees, w.index.callers g callerLimit = .ok callers ∧
        w.index.callees f calleeLimit = .ok callees ∧
        callers.countP (fun c => c.name == f && c.line == line) =
          callees.countP (fun c => c.name == g && c.line == line)) ∧
    (∀ limit, isLimit limit = false → w.index.callers g limit = .error .limitTooLarge ∧
      w.index.callees f limit = .error .limitTooLarge) ∧
    ∀ path content analysis limit, w.index.taken? w.indexer w.files path = some content →
      w.indexer.analysis? path content = some analysis →
      (w.indexFile path).2.index.Admits limit →
      ∃ callers, (w.indexFile path).2.index.callers g limit = .ok callers ∧
        callers.countP (fun c => c.name == f && c.file == path && c.line == line) =
          if analysis.isWritable then
            analysis.relationships.countP (Relationship.isCall f g line)
          else (w.index.callGraph path).relationships.countP (Relationship.isCall f g line) := by
  refine ⟨?_, ?_, ?_⟩
  · intro callerLimit calleeLimit hcallers hcallees
    refine ⟨_, _, hcallers.callers_eq g, hcallees.callees_eq f, ?_⟩
    rw [Index.countP_callers, Index.countP_callees]
  · intro limit hlimit
    exact ⟨w.index.callers_eq_error hlimit g, w.index.callees_eq_error hlimit f⟩
  · intro path content analysis limit htaken hanalysis hadmits
    have hgraph : (w.indexFile path).2.index.callGraph path =
        if analysis.isWritable then analysis.callGraph else w.index.callGraph path := by
      rw [indexFile_index, Index.callGraph_indexFile w.indexer_isLocal htaken, Indexer.extracted?,
        hanalysis, Option.filter_some]
      cases analysis.isWritable <;> rfl
    refine ⟨_, hadmits.callers_eq g, ?_⟩
    rw [Index.countP_callers_in, hgraph]
    cases analysis.isWritable <;> rfl

def oneFile (text : String) : Workspace :=
  { files := { contents := [("a.py", Text.Utf8.encode text.toList)] }
    window := ⟨40, 10⟩
    analyzer := some .source }

theorem callers_and_callees_list_three_calls :
    let text := "def f():\n g(g)\n g();g()"
    let before := oneFile text
    let after := (before.indexFile "a.py").2
    after.index.Admits 50 ∧
      (∃ callers callees, after.index.callers "g" 50 = .ok callers ∧
        after.index.callees "f" 50 = .ok callees ∧
        callers.countP (fun c => c.name == "f" && c.line == 3) =
          callees.countP (fun c => c.name == "g" && c.line == 3)) ∧
      ∃ callers, after.index.callers "g" 50 = .ok callers ∧
        callers.countP (fun c => c.name == "f" && c.file == "a.py" && c.line == 3) = 2 := by
  intro text before after
  obtain ⟨htaken, hanalysis, hwritable, hcount⟩ :
      before.index.taken? before.indexer before.files "a.py" = some text.toList ∧
        before.indexer.analysis? "a.py" text.toList = some (Source.analyze "a.py" text) ∧
        (Source.analyze "a.py" text).isWritable = true ∧
        (Source.analyze "a.py" text).relationships.countP (Relationship.isCall "f" "g" 3) = 2 := by
    decide +kernel
  have hadmits : after.index.Admits 50 := ⟨by decide +kernel, rfl⟩
  obtain ⟨hconverse, -, -⟩ := callers_and_callees_list_stored_calls after "f" "g" 3
  obtain ⟨-, -, hlisted⟩ := callers_and_callees_list_stored_calls before "f" "g" 3
  obtain ⟨callers, hcallers, hequal⟩ :=
    hlisted "a.py" text.toList _ 50 htaken hanalysis hadmits
  rw [hwritable, if_pos rfl, hcount] at hequal
  exact ⟨hadmits, hconverse 50 50 hadmits hadmits, callers, hcallers, hequal⟩

/-- The documentation of `f` is half of a surrogate pair. The analysis has the call of `g`, but none
of it is stored. -/
theorem callers_miss_call_of_unwritable_analysis :
    let text := "def f():\n '\\ud800'\n g()"
    let before := oneFile text
    let after := (before.indexFile "a.py").2
    before.index.taken? before.indexer before.files "a.py" = some text.toList ∧
      before.indexer.analysis? "a.py" text.toList = some (Source.analyze "a.py" text) ∧
      (Source.analyze "a.py" text).relationships.countP (Relationship.isCall "f" "g" 3) = 1 ∧
      (after.index.callers "g" 50).toOption = some [] := by
  decide +kernel

end Workspace

/-! ### The descriptions of callers -/

namespace Version

def FromNestedTree (v : Version) : Prop :=
  ∀ analysis, v.extracted = some analysis → ∃ (e : Concrete.Extractor) (root : Concrete.Tree),
    Concrete.WellNested (Text.Utf8.encode v.content).length root ∧
      e.extract v.path (String.ofList v.content) root = .ok analysis

/-- A call in the call graph of the last version stands within a function or method that has the
name of its source. -/
private theorem functionAround_of_mem_lastCallGraph {versions : List Version} {r : Relationship}
    (hnested : ∀ v ∈ versions, v.FromNestedTree)
    (member : r ∈ (lastCallGraph versions).relationships) (hcall : r.kind = .calls) :
    Concrete.FunctionAround (lastCallGraph versions).symbols r.source r.line := by
  unfold lastCallGraph at member ⊢
  cases hlast : versions.findSome? extracted with
  | none =>
      rw [hlast] at member
      cases member
  | some analysis =>
      rw [hlast] at member
      obtain ⟨v, hversion, hextracted⟩ := List.exists_of_findSome?_eq_some hlast
      obtain ⟨e, root, hroot, hextract⟩ := hnested v hversion analysis hextracted
      rw [← String.toList_ofList (l := v.content)] at hroot
      exact Concrete.Extractor.functionAround_of_extract hroot hextract member hcall

end Version

def Symbol.IsAroundCall (c : Caller) (s : Symbol) : Prop :=
  s.filePath = c.file ∧ s.name = c.name ∧ s.lineStart ≤ c.line ∧ c.line ≤ s.lineEnd

instance (c : Caller) (s : Symbol) : Decidable (s.IsAroundCall c) :=
  inferInstanceAs (Decidable (_ ∧ _ ∧ _ ∧ _))

def Caller.IsDescribedBy (s : Symbol) (c : Caller) : Prop :=
  c.kind = some s.kind ∧ c.signature = s.signature

instance (s : Symbol) (c : Caller) : Decidable (c.IsDescribedBy s) :=
  inferInstanceAs (Decidable (_ ∧ _))

namespace Index

variable {idx : Index} {symbol : String} {limit : Int} {callers : List Caller} {c : Caller}

def namesake? (c : Caller) (idx : Index) : Option Symbol :=
  idx.symbols.find? fun s => s.filePath == c.file && s.name == c.name

private theorem exists_call_of_mem_callers (hcallers : idx.callers symbol limit = .ok callers)
    (member : c ∈ callers) :
    ∃ r ∈ idx.relationships.values, r.kind = .calls ∧ c = idx.callerOf r := by
  unfold Index.callers at hcallers
  split at hcallers
  · cases hcallers
    obtain ⟨r, hlimited, rfl⟩ := List.mem_map.mp member
    obtain ⟨hr, hcall⟩ := List.mem_filter.mp (mem_of_mem_limited hlimited)
    exact ⟨r, hr, beq_iff_eq.mp (Bool.and_eq_true_iff.mp hcall).2, rfl⟩
  · cases hcallers

/-- A caller with a namesake is described by it. -/
private theorem isDescribedBy_namesake {r : Relationship} {first : Symbol}
    (h : idx.namesake? (idx.callerOf r) = some first) :
    (idx.callerOf r).IsDescribedBy first := by
  have hfirst : (idx.symbols.find? fun s => s.filePath == r.sourceFile && s.name == r.source) =
      some first := h
  unfold callerOf
  rw [hfirst]
  exact ⟨rfl, rfl⟩

private theorem exists_namesake {s : Symbol} (member : s ∈ idx.symbols.values)
    (hfile : s.filePath = c.file) (hname : s.name = c.name) :
    ∃ first, idx.namesake? c = some first := by
  refine Option.isSome_iff_exists.mp (List.find?_isSome.mpr ⟨s, member, ?_⟩)
  rw [hfile, hname, BEq.rfl, BEq.rfl]
  rfl

end Index

namespace Workspace

variable {versions : List Version} {w : Workspace}

/-- Where all was extracted from well-nested trees, a function or method with the name of the caller
stands around each call. -/
private theorem History.function_around_call (h : History versions w)
    (hnested : ∀ v ∈ versions, v.FromNestedTree) {r : Relationship}
    (member : r ∈ w.index.relationships.values) (hcall : r.kind = .calls) :
    ∃ s ∈ w.index.symbols.values, s.IsAroundCall (w.index.callerOf r) ∧
      (s.kind = .function ∨ s.kind = .method) := by
  have hgraph := h.recounts.callGraph r.sourceFile
  have hmember : r ∈ (w.index.callGraph r.sourceFile).relationships :=
    List.mem_filter.mpr ⟨member, BEq.rfl⟩
  have haround : Concrete.FunctionAround (w.index.callGraph r.sourceFile).symbols r.source
      r.line := by
    rw [hgraph] at hmember ⊢
    refine Version.functionAround_of_mem_lastCallGraph ?_ hmember hcall
    exact fun v hv => hnested v (List.mem_filter.mp hv).1
  obtain ⟨s, hs, hkind, hname, hfirst, hlast⟩ := haround
  obtain ⟨hs, hfile⟩ := List.mem_filter.mp hs
  exact ⟨s, hs, ⟨beq_iff_eq.mp hfile, hname, hfirst, hlast⟩, hkind⟩

/-- Where all was extracted from well-nested trees, a caller is described by the oldest symbol of
its file that has its name. A function or method of that name stands around the call, so the
description is right where all symbols of that name in the file share it; it is right exactly if
one that stands around the call has the kind and the signature of the oldest. -/
theorem caller_is_described_rightly_iff (h : History versions w)
    (hnested : ∀ v ∈ versions, v.FromNestedTree) (symbol : String) (limit : Int)
    (callers : List Caller) (hcallers : w.index.callers symbol limit = .ok callers) (c : Caller)
    (member : c ∈ callers) :
    ∃ first, w.index.namesake? c = some first ∧ c.IsDescribedBy first ∧
      (∃ s ∈ w.index.symbols.values, s.IsAroundCall c ∧
        (s.kind = .function ∨ s.kind = .method)) ∧
      ((∀ s ∈ w.index.symbols.values, s.filePath = c.file → s.name = c.name →
        c.IsDescribedBy s) → ∃ s ∈ w.index.symbols.values, s.IsAroundCall c ∧ c.IsDescribedBy s) ∧
      ((∃ s ∈ w.index.symbols.values, s.IsAroundCall c ∧ c.IsDescribedBy s) ↔
        ∃ s ∈ w.index.symbols.values, s.IsAroundCall c ∧ s.kind = first.kind ∧
          s.signature = first.signature) := by
  obtain ⟨r, hr, hcall, rfl⟩ := Index.exists_call_of_mem_callers hcallers member
  obtain ⟨s, hs, haround, hkind⟩ := h.function_around_call hnested hr hcall
  obtain ⟨first, hfirst⟩ := Index.exists_namesake hs haround.1 haround.2.1
  have hdescribed := Index.isDescribedBy_namesake hfirst
  refine ⟨first, hfirst, hdescribed, ⟨s, hs, haround, hkind⟩, ?_, ?_⟩
  · intro hshared
    exact ⟨s, hs, haround, hshared s hs haround.1 haround.2.1⟩
  · refine exists_congr fun s => and_congr_right fun _ => and_congr_right fun _ => ?_
    rw [Caller.IsDescribedBy, hdescribed.1, hdescribed.2, Option.some_inj]
    exact and_congr eq_comm eq_comm

/-- The tree of `def f(a):g()`. -/
def loneFunction : Concrete.Tree :=
  .node "module" 0 12 none
    [.node "function_definition" 0 12 none
      [.node "identifier" 4 5 (some "name") [],
        .node "parameters" 5 8 (some "parameters") [],
        .node "call" 9 12 none [.node "identifier" 9 10 (some "function") []]]]

theorem lone_caller_is_described_rightly :
    let text := "def f(a):g()"
    let w : Workspace :=
      { files := { contents := [("a.py", Text.Utf8.encode text.toList)] }
        window := ⟨40, 10⟩
        analyzer := some .tree
        trees := [(text, loneFunction)] }
    let idx := (w.indexFile "a.py").2.index
    ∃ c s, idx.callers "g" 50 = .ok [c] ∧ s ∈ idx.symbols.values ∧ s.IsAroundCall c ∧
      c.IsDescribedBy s := by
  intro text w idx
  have htaken : w.index.taken? w.indexer w.files "a.py" = some text.toList := by decide +kernel
  have hnested : Concrete.WellNested (Text.Utf8.encode text.toList).length loneFunction := by
    decide +kernel
  have hextracted : w.indexer.extracted? "a.py" text.toList =
      (Concrete.Extractor.extract .python "a.py" (String.ofList text.toList)
        loneFunction).toOption := by
    decide +kernel
  let versions := (w.index.version? w.indexer w.files "a.py").toList ++ []
  have hhistory : History versions (w.indexFile "a.py").2 := .indexFile "a.py" (.empty rfl)
  have hversions : ∀ v ∈ versions, v.FromNestedTree := by
    simp only [versions, Index.version?, htaken, hextracted, Option.map_some, Option.toList_some,
      List.append_nil, List.mem_singleton, forall_eq]
    intro analysis hanalysis
    refine ⟨.python, loneFunction, hnested, ?_⟩
    simp only at hanalysis ⊢
    cases hextract : Concrete.Extractor.extract .python "a.py" (String.ofList text.toList)
        loneFunction with
    | error failure =>
        rw [hextract] at hanalysis
        cases hanalysis
    | ok found =>
        rw [hextract] at hanalysis
        cases hanalysis
        rfl
  let c : Caller := ⟨"f", "a.py", 1, some .function, some "(a)"⟩
  have hlisted : (limited 50 (idx.relationshipsOf .calls fun r => r.target == "g")).map
      idx.callerOf = [c] := by
    decide +kernel
  have hcallers : idx.callers "g" 50 = .ok [c] := congrArg Except.ok hlisted
  obtain ⟨first, -, -, -, hshared, -⟩ := caller_is_described_rightly_iff hhistory hversions "g" 50
    [c] hcallers c List.mem_cons_self
  obtain ⟨s, hs, haround, hdescribed⟩ := hshared (by decide +kernel)
  exact ⟨c, s, hcallers, hs, haround, hdescribed⟩

/-- Two classes have a method `run`, and the second one calls `g`. -/
def namesakes : Concrete.Tree :=
  .node "module" 0 49 none
    [.node "class_definition" 0 22 none
      [.node "identifier" 6 7 (some "name") [],
        .node "function_definition" 10 22 none
          [.node "identifier" 14 17 (some "name") [],
            .node "parameters" 17 20 (some "parameters") []]],
      .node "class_definition" 23 49 none
        [.node "identifier" 29 30 (some "name") [],
          .node "function_definition" 33 49 none
            [.node "identifier" 37 40 (some "name") [],
              .node "parameters" 40 45 (some "parameters") [],
              .node "call" 46 49 none [.node "identifier" 46 47 (some "function") []]]]]

/-- The caller of `g` gets the signature of the method of the first class, which is on other lines
than the call. -/
theorem caller_is_described_by_namesake :
    let text := "class A:\n def run(s):0\nclass B:\n def run(s,x):g()"
    let w : Workspace :=
      { files := { contents := [("a.py", Text.Utf8.encode text.toList)] }
        window := ⟨40, 10⟩
        analyzer := some .tree
        trees := [(text, namesakes)] }
    let idx := (w.indexFile "a.py").2.index
    let c : Caller := ⟨"run", "a.py", 4, some .method, some "(s)"⟩
    Concrete.WellNested (Text.Utf8.encode text.toList).length namesakes ∧
      (idx.callers "g" 50).toOption = some [c] ∧
      (∃ s ∈ idx.symbols.values, s.IsAroundCall c ∧ s.signature = some "(s,x)") ∧
      ¬∃ s ∈ idx.symbols.values, s.IsAroundCall c ∧ c.IsDescribedBy s := by
  decide +kernel

end Workspace

end CodeIndex
