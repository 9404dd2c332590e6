import CodeIndex.Proofs.Encoding
import CodeIndex.Proofs.Extraction

/-!
Where the definitions and calls of an extraction lie in the text.

An extraction passes the names of classes and functions down the tree, and takes lines from the
offsets of nodes. Nothing but the tree ties the two together: where each node lies inside of its
parent, what is found below a named definition lies on the lines of that definition. `Adds` says
what one node can add, `Placed` what holds of all that is found below it, as far as the names in
its scope allow; at the root there are none, and every name that is left has its definition among
the symbols.
-/

namespace CodeIndex.Concrete

open CodeIndex.Text

/-- A tree over a text of `size` bytes: the span of each node runs forward, ends within the text and
holds the spans of its children. -/
inductive WellNested (size : Nat) : Tree → Prop where
  | node {t : Tree} (forward : t.start ≤ t.stop) (inside : t.stop ≤ size)
      (around : ∀ c ∈ t.children, t.start ≤ c.start ∧ c.stop ≤ t.stop)
      (children : ∀ c ∈ t.children, WellNested size c) : WellNested size t

mutual
def Tree.nests (size : Nat) : Tree → Bool
  | .node _ start stop _ children =>
    start ≤ stop && stop ≤ size && Tree.nestAll size start stop children

def Tree.nestAll (size first last : Nat) : List Tree → Bool
  | [] => true
  | c :: others =>
    first ≤ c.start && c.stop ≤ last && c.nests size && Tree.nestAll size first last others
end

private theorem Tree.nestAll_iff {size first last : Nat} {ts : List Tree} :
    Tree.nestAll size first last ts = true ↔
      ∀ c ∈ ts, (first ≤ c.start ∧ c.stop ≤ last) ∧ c.nests size = true := by
  induction ts with
  | nil => simp [Tree.nestAll]
  | cons c others ih => simp [Tree.nestAll, ih]

private theorem Tree.nests_iff {size : Nat} {t : Tree} : t.nests size = true ↔
    (t.start ≤ t.stop ∧ t.stop ≤ size) ∧
      ∀ c ∈ t.children, (t.start ≤ c.start ∧ c.stop ≤ t.stop) ∧ c.nests size = true := by
  cases t with
  | node kind start stop field children =>
      rw [Tree.nests, Bool.and_eq_true, Bool.and_eq_true, Tree.nestAll_iff, decide_eq_true_iff,
        decide_eq_true_iff]
      rfl

private theorem wellNested_iff (size : Nat) (t : Tree) :
    WellNested size t ↔ t.nests size = true := by
  induction t using Branching.induction with
  | node t ih =>
      rw [Tree.nests_iff]
      constructor
      · rintro ⟨forward, inside, around, children⟩
        exact ⟨⟨forward, inside⟩, fun c member =>
          ⟨around c member, (ih c member).mp (children c member)⟩⟩
      · rintro ⟨⟨forward, inside⟩, hchildren⟩
        exact .node forward inside (fun c member => (hchildren c member).1)
          fun c member => (ih c member).mpr (hchildren c member).2

instance (size : Nat) (t : Tree) : Decidable (WellNested size t) :=
  decidable_of_iff _ (wellNested_iff size t).symm

def ClassAround (symbols : List Symbol) (name : String) (first last : Nat) : Prop :=
  ∃ c ∈ symbols, c.kind = .classDef ∧ c.name = name ∧ c.lineStart ≤ first ∧ last ≤ c.lineEnd

def FunctionAround (symbols : List Symbol) (name : String) (line : Nat) : Prop :=
  ∃ f ∈ symbols, (f.kind = .function ∨ f.kind = .method) ∧ f.name = name ∧
    f.lineStart ≤ line ∧ line ≤ f.lineEnd

private theorem ClassAround.mono {symbols more : List Symbol} {name : String} {first last : Nat}
    (h : ClassAround symbols name first last) (hsub : symbols ⊆ more) :
    ClassAround more name first last := by
  obtain ⟨c, member, hc⟩ := h
  exact ⟨c, hsub member, hc⟩

private theorem FunctionAround.mono {symbols more : List Symbol} {name : String} {line : Nat}
    (h : FunctionAround symbols name line) (hsub : symbols ⊆ more) :
    FunctionAround more name line := by
  obtain ⟨f, member, hf⟩ := h
  exact ⟨f, hsub member, hf⟩

/-! ### Lines -/

section Lines

variable {bytes : List UInt8} {t c : Tree}

private theorem lineAt_mono (bytes : List UInt8) {a b : Nat} (h : a ≤ b) :
    lineAt bytes a ≤ lineAt bytes b := by
  have hcount := (List.take_sublist_take_left (l := bytes) h).count_le 10
  unfold lineAt
  omega

private theorem lineAt_le (bytes : List UInt8) (offset : Nat) :
    lineAt bytes offset ≤ 1 + bytes.count 10 := by
  have hcount := (List.take_sublist offset bytes).count_le 10
  unfold lineAt
  omega

private theorem one_le_lineAt (bytes : List UInt8) (offset : Nat) : 1 ≤ lineAt bytes offset := by
  unfold lineAt
  omega

private theorem count_newline_encode (s : List Char) : (Utf8.encode s).count 10 = s.count '\n' :=
  Utf8.count_encode (c := '\n') (by decide) s

private theorem WellNested.firstLine_le (h : WellNested bytes.length t) :
    t.firstLine bytes ≤ t.lastLine bytes := by
  cases h with
  | node forward => exact lineAt_mono bytes forward

private theorem WellNested.child (h : WellNested bytes.length t) (member : c ∈ t.children) :
    WellNested bytes.length c := by
  cases h with
  | node _ _ _ children => exact children c member

private theorem WellNested.child_firstLine (h : WellNested bytes.length t)
    (member : c ∈ t.children) :
    t.firstLine bytes ≤ c.firstLine bytes := by
  cases h with
  | node _ _ around => exact lineAt_mono bytes (around c member).1

private theorem WellNested.child_lastLine (h : WellNested bytes.length t)
    (member : c ∈ t.children) :
    c.lastLine bytes ≤ t.lastLine bytes := by
  cases h with
  | node _ _ around => exact lineAt_mono bytes (around c member).2

end Lines

/-! ### One node and all below it -/

/-- What a node can add: symbols on its own lines with the class of the scope as parent, and calls
on its first line from the function of the scope. A name that is new in the scope of the nodes below
is that of a symbol that the node adds. -/
structure Adds (bytes : List UInt8) (scope : Scope) (t : Tree) (result : Found × Scope) :
    Prop where
  lines : ∀ s ∈ result.1.symbols, s.lineStart = t.firstLine bytes ∧ s.lineEnd = t.lastLine bytes
  parents : ∀ s ∈ result.1.symbols, ∀ name, s.parent = some name → scope.inClass = some name
  calls : ∀ r ∈ result.1.relationships, r.kind = .calls →
    r.line = t.firstLine bytes ∧ scope.inFunction = some r.source
  inClass : ∀ name, result.2.inClass = some name → scope.inClass = some name ∨
    ∃ c ∈ result.1.symbols, c.kind = .classDef ∧ c.name = name
  inFunction : ∀ name, result.2.inFunction = some name → scope.inFunction = some name ∨
    ∃ f ∈ result.1.symbols, (f.kind = .function ∨ f.kind = .method) ∧ f.name = name

/-- What is found on some lines in a scope. The class that a symbol names as its parent, and the
function that a call comes from, lie around them and are found as well, or they are those of the
scope. -/
structure Placed (scope : Scope) (first last : Nat) (found : Found) : Prop where
  symbols : ∀ s ∈ found.symbols,
    first ≤ s.lineStart ∧ s.lineStart ≤ s.lineEnd ∧ s.lineEnd ≤ last
  calls : ∀ r ∈ found.relationships, r.kind = .calls → first ≤ r.line ∧ r.line ≤ last
  parents : ∀ s ∈ found.symbols, ∀ name, s.parent = some name →
    scope.inClass = some name ∨ ClassAround found.symbols name s.lineStart s.lineEnd
  sources : ∀ r ∈ found.relationships, r.kind = .calls →
    scope.inFunction = some r.source ∨ FunctionAround found.symbols r.source r.line

section Placed

variable {bytes : List UInt8} {scope inner : Scope} {first last : Nat} {t : Tree}
  {own found more below : Found}

private theorem Placed.empty (scope : Scope) (first last : Nat) : Placed scope first last {} := by
  constructor <;> simp

private theorem Placed.widen (h : Placed scope first last found) {before after : Nat}
    (hbefore : before ≤ first) (hafter : last ≤ after) : Placed scope before after found := by
  refine ⟨?_, ?_, h.parents, h.sources⟩
  · intro s member
    obtain ⟨hfirst, horder, hlast⟩ := h.symbols s member
    exact ⟨Nat.le_trans hbefore hfirst, horder, Nat.le_trans hlast hafter⟩
  · intro r member hcall
    obtain ⟨hfirst, hlast⟩ := h.calls r member hcall
    exact ⟨Nat.le_trans hbefore hfirst, Nat.le_trans hlast hafter⟩

private theorem Placed.append (h : Placed scope first last found)
    (hmore : Placed scope first last more) :
    Placed scope first last (found ++ more) := by
  have hleft : found.symbols ⊆ (found ++ more).symbols := List.subset_append_left _ _
  have hright : more.symbols ⊆ (found ++ more).symbols := List.subset_append_right _ _
  refine ⟨?_, ?_, ?_, ?_⟩
  · intro s member
    rcases List.mem_append.mp member with old | new
    · exact h.symbols s old
    · exact hmore.symbols s new
  · intro r member
    rcases List.mem_append.mp member with old | new
    · exact h.calls r old
    · exact hmore.calls r new
  · intro s member name hname
    rcases List.mem_append.mp member with old | new
    · exact (h.parents s old name hname).imp_right fun around => around.mono hleft
    · exact (hmore.parents s new name hname).imp_right fun around => around.mono hright
  · intro r member hcall
    rcases List.mem_append.mp member with old | new
    · exact (h.sources r old hcall).imp_right fun around => around.mono hleft
    · exact (hmore.sources r new hcall).imp_right fun around => around.mono hright

/-- What a node adds, together with what is found on its lines in the scope that it makes. -/
theorem Adds.placed (h : Adds bytes scope t (own, inner))
    (hforward : t.firstLine bytes ≤ t.lastLine bytes)
    (hbelow : Placed inner (t.firstLine bytes) (t.lastLine bytes) below) :
    Placed scope (t.firstLine bytes) (t.lastLine bytes) (own ++ below) := by
  have hleft : own.symbols ⊆ (own ++ below).symbols := List.subset_append_left _ _
  have hright : below.symbols ⊆ (own ++ below).symbols := List.subset_append_right _ _
  refine ⟨?_, ?_, ?_, ?_⟩
  · intro s member
    rcases List.mem_append.mp member with atNode | under
    · obtain ⟨hfirst, hlast⟩ := h.lines s atNode
      rw [hfirst, hlast]
      exact ⟨Nat.le_refl _, hforward, Nat.le_refl _⟩
    · exact hbelow.symbols s under
  · intro r member hcall
    rcases List.mem_append.mp member with atNode | under
    · rw [(h.calls r atNode hcall).1]
      exact ⟨Nat.le_refl _, hforward⟩
    · exact hbelow.calls r under hcall
  · intro s member name hname
    rcases List.mem_append.mp member with atNode | under
    · exact .inl (h.parents s atNode name hname)
    · rcases hbelow.parents s under name hname with hscope | around
      · -- The name is new below the node, or was in its scope before.
        refine (h.inClass name hscope).imp_right fun ⟨c, hc, hkind, hnamed⟩ => ?_
        obtain ⟨hfirst, hlast⟩ := h.lines c hc
        obtain ⟨hstart, -, hend⟩ := hbelow.symbols s under
        exact ⟨c, hleft hc, hkind, hnamed, hfirst ▸ hstart, hlast ▸ hend⟩
      · exact .inr (around.mono hright)
  · intro r member hcall
    rcases List.mem_append.mp member with atNode | under
    · exact .inl (h.calls r atNode hcall).2
    · rcases hbelow.sources r under hcall with hscope | around
      · refine (h.inFunction r.source hscope).imp_right fun ⟨f, hf, hkind, hnamed⟩ => ?_
        obtain ⟨hfirst, hlast⟩ := h.lines f hf
        obtain ⟨hstart, hend⟩ := hbelow.calls r under hcall
        exact ⟨f, hleft hf, hkind, hnamed, hfirst ▸ hstart, hlast ▸ hend⟩
      · exact .inr (around.mono hright)

end Placed

section Walk

variable {bytes : List UInt8} {rule : NodeRule}

private theorem walkAll_placed {scope : Scope} {first last : Nat} {ts : List Tree}
    (hwalk : ∀ t ∈ ts, Yields (Placed scope first last) (walk rule scope t)) :
    Yields (Placed scope first last) (walkAll rule scope ts) := by
  induction ts with
  | nil => exact .pure (.empty scope first last)
  | cons t others ih =>
      obtain ⟨hfirst, hothers⟩ := List.forall_mem_cons.mp hwalk
      rw [walkAll_cons]
      exact .bind hfirst fun own hown => .bind (ih hothers) fun rest hrest =>
        .pure (hown.append hrest)

/-- A walk over a well-nested tree, by induction over the tree for any scope. -/
private theorem walk_placed (hrule : ∀ scope t, Yields (Adds bytes scope t) (rule scope t))
    (t : Tree) :
    ∀ scope, WellNested bytes.length t →
      Yields (Placed scope (t.firstLine bytes) (t.lastLine bytes)) (walk rule scope t) := by
  induction t using Branching.induction with
  | node t ih =>
      intro scope hnested
      rw [walk_eq]
      refine .bind (hrule scope t) fun result hadds => ?_
      refine .bind (walkAll_placed fun c member => ?_) fun below hbelow =>
        .pure (hadds.placed hnested.firstLine_le hbelow)
      intro found hfound
      have hchild := ih c member result.2 (hnested.child member) found hfound
      exact hchild.widen (hnested.child_firstLine member) (hnested.child_lastLine member)

end Walk

namespace Extractor

/-! ### The rules -/

variable {bytes : List UInt8} {path : String} {scope : Scope} {t : Tree} {own : Found}

/-- A node that defines nothing and calls nothing. -/
private theorem adds_plain (hsymbols : own.symbols = [])
    (hcalls : ∀ r ∈ own.relationships, r.kind ≠ .calls) : Adds bytes scope t (own, scope) := by
  refine ⟨?_, ?_, ?_, fun _ => .inl, fun _ => .inl⟩
  · simp [hsymbols]
  · simp [hsymbols]
  · intro r member hcall
    exact absurd hcall (hcalls r member)

private theorem adds_nothing : Adds bytes scope t ({}, scope) :=
  adds_plain rfl (by simp)

structure Defines (bytes : List UInt8) (t : Tree) (name : String) (kinds : SymbolKind → Prop)
    (s : Symbol) : Prop where
  name : s.name = name
  kind : kinds s.kind
  start : s.lineStart = t.firstLine bytes
  stop : s.lineEnd = t.lastLine bytes

private theorem adds_class {s : Symbol} {name : String} (hsymbols : own.symbols = [s])
    (hs : Defines bytes t name (· = .classDef) s) (hparent : s.parent = none)
    (hcalls : ∀ r ∈ own.relationships, r.kind ≠ .calls) :
    Adds bytes scope t (own, { scope with inClass := some name }) := by
  refine ⟨?_, ?_, ?_, ?_, fun _ => .inl⟩
  · simp [hsymbols, hs.start, hs.stop]
  · simp [hsymbols, hparent]
  · intro r member hcall
    exact absurd hcall (hcalls r member)
  · rintro _ ⟨⟩
    exact .inr ⟨s, by simp [hsymbols], hs.kind, hs.name⟩

private theorem adds_function {s : Symbol} {name : String} (hsymbols : own.symbols = [s])
    (hs : Defines bytes t name (fun kind => kind = .function ∨ kind = .method) s)
    (hparent : ∀ parent, s.parent = some parent → scope.inClass = some parent)
    (hcalls : own.relationships = []) :
    Adds bytes scope t (own, { scope with inFunction := some name }) := by
  refine ⟨?_, ?_, ?_, fun _ => .inl, ?_⟩
  · simp [hsymbols, hs.start, hs.stop]
  · simpa [hsymbols] using hparent
  · simp [hcalls]
  · rintro _ ⟨⟩
    exact .inr ⟨s, by simp [hsymbols], hs.kind, hs.name⟩

private theorem callOf_adds (memberKind memberField : String) :
    Yields (fun found => Adds bytes scope t (found, scope))
      (callOf bytes path memberKind memberField scope t) := by
  unfold callOf
  split
  · rename_i source callee hsource _
    refine .after fun target => ?_
    split
    · refine .pure ⟨by simp, by simp, ?_, fun _ => .inl, fun _ => .inl⟩
      simp [callRelationship, eq_some_of_nonEmpty? hsource]
    · exact .pure adds_nothing
  · exact .pure adds_nothing

private theorem importOf_adds (target : String) :
    Adds bytes scope t (importOf bytes path t target, scope) :=
  adds_plain rfl (by simp [importOf, importRelationship])

private theorem pythonClass_adds (name : String) :
    Yields (Adds bytes scope t) (pythonClass bytes path scope t name) := by
  have hfound (doc : Option Text.CodeText) (bases : List String) : Adds bytes scope t
      (({ symbols := [{ definition bytes path name .classDef t with docText := doc }]
          relationships := bases.map (inheritance path name (t.firstLine bytes)) } : Found),
        { scope with inClass := some name }) :=
    adds_class rfl ⟨rfl, rfl, rfl, rfl⟩ rfl (by simp [inheritance])
  refine .after fun doc => ?_
  simp only
  split
  · exact .after fun bases => .pure (hfound doc bases)
  · exact .after fun bases => .pure (hfound doc bases)

private theorem pythonFunction_adds (name : String) :
    Yields (Adds bytes scope t) (pythonFunction bytes path scope t name) := by
  refine .after fun signature => .after fun doc => .pure ?_
  refine adds_function rfl ⟨rfl, ?_, rfl, rfl⟩ (fun _ h => h) rfl
  cases (nonEmpty? scope.inClass).isSome with
  | false => exact .inl rfl
  | true => exact .inr rfl

private theorem pythonRule_adds (scope : Scope) (t : Tree) :
    Yields (Adds bytes scope t) (pythonRule bytes path scope t) := by
  unfold pythonRule
  split
  · refine .after fun name? => ?_
    split
    · exact pythonFunction_adds _
    · exact .pure adds_nothing
  · refine .after fun name? => ?_
    split
    · exact pythonClass_adds _
    · exact .pure adds_nothing
  · exact .bind (callOf_adds _ _) fun found hfound => .pure hfound
  · refine .after fun names => .pure ?_
    rw [foldl_importOf]
    refine adds_plain rfl fun r member => ?_
    obtain ⟨name, -, rfl⟩ := List.mem_map.mp member
    simp [importRelationship]
  · refine .after fun name? => ?_
    split
    · exact .pure (importOf_adds _)
    · exact .pure adds_nothing
  · exact .pure adds_nothing

private theorem javascriptRule_adds (scope : Scope) (t : Tree) :
    Yields (Adds bytes scope t) (javascriptRule bytes path scope t) := by
  unfold javascriptRule
  split
  · refine .after fun name? => ?_
    split
    · exact .after fun signature =>
        .pure (adds_function rfl ⟨rfl, .inl rfl, rfl, rfl⟩ (fun _ h => h) rfl)
    · exact .pure adds_nothing
  · refine .after fun names => .pure ⟨?_, ?_, by simp, fun _ => .inl, fun _ => .inl⟩
    · simp [definition]
    · simp
  · refine .after fun name? => ?_
    split
    · exact .pure (adds_class rfl ⟨rfl, rfl, rfl, rfl⟩ rfl (by simp))
    · exact .pure adds_nothing
  · split
    · exact .pure adds_nothing
    · rename_i parent hparent
      refine .after fun name? => ?_
      split
      · refine .pure (adds_function rfl ⟨rfl, .inr rfl, rfl, rfl⟩ ?_ rfl)
        rintro _ ⟨⟩
        exact eq_some_of_nonEmpty? hparent
      · exact .pure adds_nothing
  · exact .bind (callOf_adds _ _) fun found hfound => .pure hfound
  · refine .after fun source? => ?_
    split
    · exact .pure (importOf_adds _)
    · exact .pure adds_nothing
  · exact .pure adds_nothing

private theorem rule_adds (e : Extractor) (scope : Scope) (t : Tree) :
    Yields (Adds bytes scope t) (e.rule bytes path scope t) := by
  cases e with
  | python => exact pythonRule_adds scope t
  | javascript => exact javascriptRule_adds scope t

/-! ### The whole extraction -/

private theorem extract_placed {content : String} {root : Tree} (e : Extractor) (path : String)
    (hnested : WellNested (Utf8.encode content.toList).length root) :
    let bytes := Utf8.encode content.toList
    Yields (fun analysis => Placed {} (root.firstLine bytes) (root.lastLine bytes)
        { symbols := analysis.symbols, relationships := analysis.relationships })
      (e.extract path content root) := by
  intro bytes
  refine .bind (walk_placed e.rule_adds root {} hnested) fun found hfound => .pure ?_
  exact ⟨hfound.symbols, hfound.calls, hfound.parents, hfound.sources⟩

/-- Each call of an extraction lies on the lines of a function that it names. -/
theorem functionAround_of_extract {e : Extractor} {path content : String} {root : Tree}
    {analysis : Analysis} (hnested : WellNested (Utf8.encode content.toList).length root)
    (hextract : e.extract path content root = .ok analysis) {r : Relationship}
    (member : r ∈ analysis.relationships) (hcall : r.kind = .calls) :
    FunctionAround analysis.symbols r.source r.line := by
  have hplaced := extract_placed e path hnested analysis hextract
  exact (hplaced.sources r member hcall).resolve_left (by simp)

/-- In an extraction from a well-nested tree, the lines of each symbol are lines of the text. A
symbol with a parent lies within the lines of a class of that name, and a call within those of a
function or method with the name of its source, both among the symbols of the extraction. -/
theorem extraction_is_enclosed (e : Extractor) (path content : String) (root : Tree)
    (analysis : Analysis) (hnested : WellNested (Utf8.encode content.toList).length root)
    (hextract : e.extract path content root = .ok analysis) :
    (∀ s ∈ analysis.symbols, 1 ≤ s.lineStart ∧ s.lineStart ≤ s.lineEnd ∧
      s.lineEnd ≤ 1 + content.toList.count '\n') ∧
    (∀ s ∈ analysis.symbols, ∀ parent, s.parent = some parent →
      ClassAround analysis.symbols parent s.lineStart s.lineEnd) ∧
    ∀ r ∈ analysis.relationships, r.kind = .calls →
      FunctionAround analysis.symbols r.source r.line := by
  have hplaced := extract_placed e path hnested analysis hextract
  refine ⟨?_, ?_, fun r => functionAround_of_extract hnested hextract⟩
  · intro s member
    obtain ⟨hfirst, horder, hlast⟩ := hplaced.symbols s member
    refine ⟨Nat.le_trans (one_le_lineAt _ _) hfirst, horder, Nat.le_trans hlast ?_⟩
    rw [← count_newline_encode]
    exact lineAt_le _ root.stop
  · intro s member parent hparent
    exact (hplaced.parents s member parent hparent).resolve_left (by simp)

/-- A class `C` on three lines, with a method `m` from the second line on that calls `g` on the
third. -/
def nestedMethod : Tree :=
  .node "program" 0 22 none
    [.node "class_declaration" 0 22 none
      [.node "identifier" 6 7 (some "name") [],
        .node "method_definition" 10 21 none
          [.node "property_identifier" 10 11 (some "name") [],
            .node "call_expression" 17 20 none [.node "identifier" 17 18 (some "function") []]]]]

theorem extraction_of_nested_method :
    let content := "class C\x7b\n m()\x7b\n  g()\x7d\x7d"
    WellNested (Utf8.encode content.toList).length nestedMethod ∧
      ∃ analysis, extract .javascript "a.js" content nestedMethod = .ok analysis ∧
        analysis.symbols.map (fun s => (s.name, s.lineStart, s.lineEnd, s.parent)) =
          [("C", 1, 3, none), ("m", 2, 3, some "C")] ∧
        analysis.relationships.map (fun r => (r.source, r.target, r.line)) = [("m", "g", 3)] ∧
        (∀ s ∈ analysis.symbols, ∀ parent, s.parent = some parent →
          ClassAround analysis.symbols parent s.lineStart s.lineEnd) ∧
        ∀ r ∈ analysis.relationships, r.kind = .calls →
          FunctionAround analysis.symbols r.source r.line := by
  intro content
  have hnested : WellNested (Utf8.encode content.toList).length nestedMethod := by
    decide +kernel
  have hshown : (extract .javascript "a.js" content nestedMethod).toOption.map
      (fun a => a.symbols.map fun s => (s.name, s.lineStart, s.lineEnd, s.parent)) =
        some [("C", 1, 3, none), ("m", 2, 3, some "C")] := by
    decide +kernel
  have hcalled : (extract .javascript "a.js" content nestedMethod).toOption.map
      (fun a => a.relationships.map fun r => (r.source, r.target, r.line)) =
        some [("m", "g", 3)] := by
    decide +kernel
  cases hextract : extract .javascript "a.js" content nestedMethod with
  | error failure =>
      rw [hextract] at hshown
      cases hshown
  | ok analysis =>
      rw [hextract] at hshown hcalled
      obtain ⟨-, hparents, hcalls⟩ :=
        extraction_is_enclosed .javascript "a.js" content nestedMethod analysis hnested hextract
      exact ⟨hnested, analysis, rfl, Option.some.inj hshown, Option.some.inj hcalled, hparents,
        hcalls⟩

end Extractor

end CodeIndex.Concrete
