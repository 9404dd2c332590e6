import CodeIndex.Concrete.Extractor
import CodeIndex.Proofs.TreeWalk

/-!
What is extracted from a concrete tree of Python.

Every name is the decoded text of a node, so a tree whose texts all decode never makes the
extraction fail. It then lists the definitions with a name and the calls inside of functions with a
name, each in the order of the walk.
-/

namespace CodeIndex.Concrete.Extractor

open CodeIndex.Text

def text? (bytes : List UInt8) (t : Tree) : Option String :=
  (text bytes t).toOption

def pythonNaming (bytes : List UInt8) : Naming where
  classes := ["class_definition"]
  functions := ["function_definition"]
  textOf := text? bytes

def functionKind : Option String → SymbolKind
  | some className => if className = "" then .function else .method
  | none => .function

/-- The symbol of a definition with a name that stands in a class, or in none. -/
def definitionIn? (bytes : List UInt8) (path : String) (inClass : Option String) (t : Tree) :
    Option Symbol :=
  ((t.child? "name").bind (text? bytes)).bind fun name =>
    match t.kind with
    | "function_definition" =>
      some
        { name
          kind := functionKind inClass
          filePath := path
          lineStart := t.firstLine bytes
          lineEnd := t.lastLine bytes
          signature := (t.child? "parameters").bind (text? bytes)
          docText := (docText bytes t).toOption.join
          parent := inClass }
    | "class_definition" =>
      some
        { name
          kind := .classDef
          filePath := path
          lineStart := t.firstLine bytes
          lineEnd := t.lastLine bytes
          docText := (docText bytes t).toOption.join
          parent := none }
    | _ => none

def definition? (bytes : List UInt8) (path : String) (o : Occurrence Tree) : Option Symbol :=
  definitionIn? bytes path ((pythonNaming bytes).enclosingClass? o) o.node

def calledBy? (bytes : List UInt8) (t : Tree) : Option String :=
  (t.child? "function").bind fun callee =>
    match callee.kind with
    | "identifier" => text? bytes callee
    | "attribute" => (callee.child? "attribute").bind (text? bytes)
    | _ => none

def callIn? (bytes : List UInt8) (path : String) (inFunction : Option String) (t : Tree) :
    Option Relationship :=
  if t.kind = "call" then
    match inFunction, calledBy? bytes t with
    | some source, some target =>
      if source = "" ∨ target = "" then none
      else
        some { sourceFile := path, source, line := t.firstLine bytes, target, kind := .calls }
    | _, _ => none
  else none

def call? (bytes : List UInt8) (path : String) (o : Occurrence Tree) : Option Relationship :=
  callIn? bytes path ((pythonNaming bytes).enclosingFunction? o) o.node

def callsOf (relationships : List Relationship) : List Relationship :=
  relationships.filter fun r => r.kind = .calls

/-! ### Texts -/

inductive Legible (bytes : List UInt8) : Tree → Prop where
  | node {t : Tree} (text : ¬Fails (text bytes t)) (children : ∀ c ∈ t.children, Legible bytes c) :
      Legible bytes t

variable {bytes : List UInt8} {path : String} {scope : Scope} {t : Tree}

theorem Legible.text (h : Legible bytes t) : ¬Fails (text bytes t) := by
  cases h with
  | node text => exact text

theorem Legible.child (h : Legible bytes t) {c : Tree} (member : c ∈ t.children) :
    Legible bytes c := by
  cases h with
  | node _ children => exact children c member

/-- Where all the nodes of a tree have texts, each of them is legible. -/
theorem legible_of_forall (t : Tree) : ∀ above : List Tree,
    (∀ o ∈ preorderBelow above t, ¬Fails (Extractor.text bytes o.node)) →
      ∀ o ∈ preorderBelow above t, Legible bytes o.node := by
  induction t using Branching.induction with
  | node t ih =>
      intro above h
      rw [preorderBelow_eq] at h ⊢
      simp only [List.forall_mem_cons, List.forall_mem_flatMap] at h ⊢
      have hbelow (c : Tree) (member : c ∈ Branching.parts t) :=
        ih c member (t :: above) (h.2 c member)
      refine ⟨.node h.1 fun c member => ?_, hbelow⟩
      exact hbelow c member _ (mem_preorderBelow_self (t :: above) c)

theorem Legible.fieldText (h : Legible bytes t) (name : String) :
    ¬Fails (fieldText bytes t name) := by
  unfold Extractor.fieldText
  split
  · exact not_fails_ok _
  · rename_i c hchild
    rw [fails_map_iff]
    exact (h.child (Tree.mem_of_child? hchild)).text

private theorem Legible.texts (h : Legible bytes t) (kind : String) :
    ¬Fails ((t.childrenOf kind).mapM (Extractor.text bytes)) :=
  not_fails_mapM fun _ member => (h.child (List.mem_filter.mp member).1).text

private theorem Legible.docText (h : Legible bytes t) : ¬Fails (docText bytes t) := by
  unfold Extractor.docText
  split
  · rename_i first hfirst
    obtain ⟨body, hbody, hhead⟩ := Option.bind_eq_some_iff.mp hfirst
    have hlegible := (h.child (Tree.mem_of_child? hbody)).child (List.mem_of_head? hhead)
    split
    · split
      · rename_i value hvalue
        split
        · rw [fails_map_iff]
          exact (hlegible.child (List.mem_of_head? hvalue)).text
        · exact not_fails_ok _
      · exact not_fails_ok _
    · exact not_fails_ok _
  · exact not_fails_ok _

theorem Legible.callOf (h : Legible bytes t) (memberKind memberField : String) :
    ¬Fails (callOf bytes path memberKind memberField scope t) := by
  unfold Extractor.callOf
  split
  · rename_i source callee _ hcallee
    have hlegible := h.child (Tree.mem_of_child? hcallee)
    refine not_fails_bind ?_ fun target => ?_
    · unfold calleeText
      split
      · rw [fails_map_iff]
        exact hlegible.text
      · split
        · exact hlegible.fieldText memberField
        · exact not_fails_ok _
    · split <;> exact not_fails_ok _
  · exact not_fails_ok _

/-- No node of a tree with all its texts makes the rule fail. -/
theorem Legible.pythonRule (h : Legible bytes t) : ¬Fails (pythonRule bytes path scope t) := by
  unfold Extractor.pythonRule
  split
  · refine not_fails_bind (h.fieldText "name") fun name => ?_
    split
    · exact not_fails_bind (h.fieldText _) fun _ => not_fails_bind h.docText fun _ => not_fails_ok _
    · exact not_fails_ok _
  · refine not_fails_bind (h.fieldText "name") fun name => ?_
    split
    · refine not_fails_bind h.docText fun _ => ?_
      simp only
      split
      · rename_i list hlist
        have hlegible := h.child (Tree.mem_of_child? hlist)
        exact not_fails_bind (hlegible.texts _) fun _ => not_fails_ok _
      · exact not_fails_ok _
    · exact not_fails_ok _
  · exact not_fails_bind (h.callOf _ _) fun _ => not_fails_ok _
  · exact not_fails_bind (h.texts _) fun _ => not_fails_ok _
  · refine not_fails_bind (h.fieldText _) fun name => ?_
    split <;> exact not_fails_ok _
  · exact not_fails_ok _

/-! ### One node -/

theorem text_yields (t : Tree) : Yields (fun s => text? bytes t = some s) (text bytes t) := by
  intro s h
  rw [text?, h]
  rfl

theorem fieldText_yields (t : Tree) (name : String) :
    Yields (fun s? => (t.child? name).bind (text? bytes) = s?) (fieldText bytes t name) := by
  unfold fieldText
  cases t.child? name with
  | none => exact .pure rfl
  | some c => exact .bind (text_yields c) fun _ h => .pure h

private theorem docText_yields (t : Tree) :
    Yields (fun doc => (docText bytes t).toOption.join = doc) (docText bytes t) := by
  intro doc h
  rw [h]
  rfl

/-- A node adds the symbol of its definition and its call, if it is one, and is then the innermost
around the nodes below it. -/
structure Enters (bytes : List UInt8) (path : String) (scope : Scope) (t : Tree)
    (result : Found × Scope) : Prop where
  symbols : result.1.symbols = (definitionIn? bytes path scope.inClass t).toList
  calls : callsOf result.1.relationships = (callIn? bytes path scope.inFunction t).toList
  scope : result.2 = (pythonNaming bytes).enter scope t

private theorem callIn?_of_other (hkind : t.kind ≠ "call") (inFunction : Option String) :
    callIn? bytes path inFunction t = none := by
  unfold callIn?
  exact if_neg hkind

private theorem callsOf_map_of_ne {α : Type} {f : α → Relationship} (h : ∀ a, (f a).kind ≠ .calls)
    {items : List α} : callsOf (items.map f) = [] := by
  simp [callsOf, h]

/-- An empty name of a class counts as none. -/
theorem functionKind_eq (inClass : Option String) :
    functionKind inClass = if (nonEmpty? inClass).isSome then .method else .function := by
  cases inClass with
  | none => rfl
  | some className => by_cases h : className = "" <;> simp [functionKind, nonEmpty?, h]

private theorem pythonFunction_enters {name : String} (hkind : t.kind = "function_definition")
    (hname : (t.child? "name").bind (text? bytes) = some name) :
    Yields (Enters bytes path scope t) (pythonFunction bytes path scope t name) := by
  have henter : (pythonNaming bytes).enter scope t = { scope with inFunction := some name } :=
    Naming.enter_of_function (by simp [pythonNaming, hkind]) (by simp [pythonNaming, hkind]) hname
  refine .bind (fieldText_yields t _) fun signature hsignature =>
    .bind (docText_yields t) fun doc hdoc => .pure ⟨?_, ?_, henter.symm⟩
  · simp only [definitionIn?, hname, hkind, hsignature, hdoc, functionKind_eq, Option.bind_some]
    rfl
  · rw [callIn?_of_other (by simp [hkind])]
    rfl

private theorem pythonClass_enters {name : String} (hkind : t.kind = "class_definition")
    (hname : (t.child? "name").bind (text? bytes) = some name) :
    Yields (Enters bytes path scope t) (pythonClass bytes path scope t name) := by
  have henter : (pythonNaming bytes).enter scope t = { scope with inClass := some name } :=
    Naming.enter_of_class (by simp [pythonNaming, hkind]) (by simp [pythonNaming, hkind]) hname
  have hfound {doc : Option Text.CodeText} (hdoc : (docText bytes t).toOption.join = doc)
      (bases : List String) : Enters bytes path scope t
        (({ symbols := [{ definition bytes path name .classDef t with docText := doc }]
            relationships := bases.map (inheritance path name (t.firstLine bytes)) } : Found),
          { scope with inClass := some name }) := by
    refine ⟨?_, ?_, henter.symm⟩
    · simp only [definitionIn?, hname, hkind, hdoc, Option.bind_some]
      rfl
    · rw [callsOf_map_of_ne (by simp [inheritance]), callIn?_of_other (by simp [hkind])]
      rfl
  refine .bind (docText_yields t) fun doc hdoc => ?_
  simp only
  split
  · exact .after fun bases => .pure (hfound hdoc bases)
  · exact .after fun bases => .pure (hfound hdoc bases)

private theorem enters_unnamed (hkind : t.kind ≠ "call")
    (hname : (t.child? "name").bind (text? bytes) = none) :
    Enters bytes path scope t ({}, scope) := by
  have hself : (pythonNaming bytes).enter scope t = scope := Naming.enter_of_unnamed hname
  refine ⟨?_, ?_, hself.symm⟩
  · rw [definitionIn?, hname]
    rfl
  · rw [callIn?_of_other hkind]
    rfl

/-- A node that is no definition adds its call, if it is one. -/
theorem enters_other {own : Found} (hclass : t.kind ≠ "class_definition")
    (hfunction : t.kind ≠ "function_definition") (hsymbols : own.symbols = [])
    (hcalls : callsOf own.relationships = (callIn? bytes path scope.inFunction t).toList) :
    Enters bytes path scope t (own, scope) := by
  have hnone : definitionIn? bytes path scope.inClass t = none := by
    simp [definitionIn?]
  have hself : (pythonNaming bytes).enter scope t = scope :=
    Naming.enter_of_other (by simp [pythonNaming, hclass]) (by simp [pythonNaming, hfunction])
  refine ⟨?_, hcalls, hself.symm⟩
  rw [hsymbols, hnone]
  rfl

private theorem enters_plain {own : Found}
    (hkind : t.kind ∉ ["class_definition", "function_definition", "call"])
    (hsymbols : own.symbols = []) (hcalls : callsOf own.relationships = []) :
    Enters bytes path scope t (own, scope) := by
  simp only [List.mem_cons, List.not_mem_nil, or_false, not_or] at hkind
  obtain ⟨hclass, hfunction, hcall⟩ := hkind
  refine enters_other hclass hfunction hsymbols ?_
  rw [hcalls, callIn?_of_other hcall]
  rfl

private theorem calleeText_yields {callee : Tree} (hcallee : t.child? "function" = some callee) :
    Yields (fun target? => calledBy? bytes t = target?)
      (calleeText bytes "attribute" "attribute" callee) := by
  unfold calleeText calledBy?
  rw [hcallee, Option.bind_some]
  split
  · rename_i hkind
    rw [hkind]
    exact .bind (text_yields callee) fun _ h => .pure h
  · rename_i hkind
    rw [hkind]
    exact fieldText_yields callee "attribute"
  · rename_i hidentifier hattribute
    rw [if_neg (by simpa using hidentifier), if_neg (by simpa using hattribute)]
    exact .pure rfl

private theorem callIn?_eq (hkind : t.kind = "call") (inFunction : Option String) :
    callIn? bytes path inFunction t =
      (nonEmpty? inFunction).bind fun source => (nonEmpty? (calledBy? bytes t)).map
        (callRelationship path source (t.firstLine bytes)) := by
  unfold callIn?
  rw [if_pos hkind]
  cases inFunction with
  | none => rfl
  | some source =>
      cases calledBy? bytes t with
      | none => by_cases hsource : source = "" <;> simp [nonEmpty?, hsource]
      | some target =>
          by_cases hsource : source = "" <;> by_cases htarget : target = "" <;>
            simp [nonEmpty?, callRelationship, hsource, htarget]

private theorem callOf_yields (hkind : t.kind = "call") :
    Yields (fun own => own.symbols = [] ∧
        callsOf own.relationships = (callIn? bytes path scope.inFunction t).toList)
      (callOf bytes path "attribute" "attribute" scope t) := by
  rw [callIn?_eq hkind]
  unfold callOf
  cases nonEmpty? scope.inFunction with
  | none => exact .pure ⟨rfl, rfl⟩
  | some source =>
      cases hcallee : t.child? "function" with
      | none =>
          have hnone : calledBy? bytes t = none := by rw [calledBy?, hcallee]; rfl
          rw [hnone]
          exact .pure ⟨rfl, rfl⟩
      | some callee =>
          refine .bind (calleeText_yields hcallee) fun target? htarget => ?_
          rw [htarget]
          cases nonEmpty? target? with
          | none => exact .pure ⟨rfl, rfl⟩
          | some target => exact .pure ⟨rfl, rfl⟩

/-- The imports of one node, put together. -/
theorem foldl_importOf (t : Tree) (names : List String) (found : Found) :
    names.foldl (fun found name => found ++ importOf bytes path t name) found =
      found ++
        { imports := names
          relationships := names.map (importRelationship path (t.firstLine bytes)) : Found } := by
  induction names generalizing found with
  | nil => exact found.append_empty.symm
  | cons name rest ih =>
      rw [List.foldl_cons, ih, Found.append_assoc]
      rfl

private theorem pythonRule_enters (scope : Scope) (t : Tree) :
    Yields (Enters bytes path scope t) (pythonRule bytes path scope t) := by
  unfold pythonRule
  split
  · rename_i hkind
    refine .bind (fieldText_yields t "name") fun name? hname => ?_
    split
    · exact pythonFunction_enters hkind hname
    · exact .pure (enters_unnamed (by simp [hkind]) hname)
  · rename_i hkind
    refine .bind (fieldText_yields t "name") fun name? hname => ?_
    split
    · exact pythonClass_enters hkind hname
    · exact .pure (enters_unnamed (by simp [hkind]) hname)
  · rename_i hkind
    exact .bind (callOf_yields hkind) fun own h =>
      .pure (enters_other (by simp [hkind]) (by simp [hkind]) h.1 h.2)
  · rename_i hkind
    refine .after fun names => .pure ?_
    rw [foldl_importOf]
    exact enters_plain (by simp [hkind]) rfl (callsOf_map_of_ne (by simp [importRelationship]))
  · rename_i hkind
    refine .after fun name? => ?_
    split
    · exact .pure (enters_plain (by simp [hkind]) rfl rfl)
    · exact .pure (enters_plain (by simp [hkind]) rfl rfl)
  · rename_i hfunction hclass hcall _ _
    refine .pure (enters_plain ?_ rfl rfl)
    simp only [List.mem_cons, List.not_mem_nil, or_false, not_or]
    exact ⟨hclass, hfunction, hcall⟩

/-! ### The whole extraction -/

theorem walk_eq_gather_foundAt (bytes : List UInt8) (path : String) (root : Tree) :
    walk (pythonRule bytes path) {} root =
      gather (foundAt (pythonRule bytes path) (pythonNaming bytes).scopeOf) (preorder root) :=
  (pythonNaming bytes).walk_eq_gather
    (fun scope t result h => (pythonRule_enters scope t result h).scope) root

/-- A walk over nodes whose bytes are texts gives a result. -/
theorem walk_not_fails {root : Tree} (h : ∀ o ∈ preorder root, ¬Fails (text bytes o.node)) :
    ¬Fails (walk (pythonRule bytes path) {} root) := by
  rw [walk_eq_gather_foundAt, gather_fails_iff]
  rintro ⟨o, member, hfails⟩
  unfold foundAt at hfails
  rw [fails_map_iff] at hfails
  exact (legible_of_forall root [] h o member).pythonRule hfails

/-- What the walk gives are the symbols of all definitions and the calls in functions, in the order
of the text. -/
theorem walk_symbols_and_calls (bytes : List UInt8) (path : String) (root : Tree) :
    Yields (fun found =>
        found.symbols = (preorder root).filterMap (definition? bytes path) ∧
          callsOf found.relationships = (preorder root).filterMap (call? bytes path))
      (walk (pythonRule bytes path) {} root) := by
  have hown (o : Occurrence Tree) :
      Yields (fun own => own.symbols = (definition? bytes path o).toList ∧
          callsOf own.relationships = (call? bytes path o).toList)
        (foundAt (pythonRule bytes path) (pythonNaming bytes).scopeOf o) :=
    .bind (pythonRule_enters _ o.node) fun _ h => .pure ⟨h.symbols, h.calls⟩
  rw [walk_eq_gather_foundAt]
  intro found h
  constructor
  · exact gather_view Found.symbols rfl (fun _ _ => rfl)
      (fun o _ own hat => (hown o own hat).1) found h
  · exact gather_view (fun found => callsOf found.relationships) rfl
      (fun _ _ => List.filter_append ..) (fun o _ own hat => (hown o own hat).2) found h

private theorem text_not_fails {chars : List Char} (h : Utf8.decode (t.bytesIn bytes) = .ok chars) :
    ¬Fails (text bytes t) := by
  unfold text
  rw [h]
  exact not_fails_ok _

theorem texts_not_fail {root : Tree}
    (h : ∀ o ∈ preorder root, ∃ chars, Utf8.decode (o.node.bytesIn bytes) = .ok chars) :
    ∀ o ∈ preorder root, ¬Fails (text bytes o.node) := by
  intro o member
  obtain ⟨chars, hchars⟩ := h o member
  exact text_not_fails hchars

/-- A Python tree whose texts are all UTF-8 is extracted without a failure. The symbols are those of
its functions and classes that have a name, and the calls those inside of functions with a name that
is not empty, at any depth, each once and in the order of the walk. -/
theorem python_extraction_is_complete (path content : String) (root : Tree)
    (hdecodes : ∀ o ∈ preorder root, ∃ chars,
      Utf8.decode (o.node.bytesIn (Utf8.encode content.toList)) = .ok chars) :
    let bytes := Utf8.encode content.toList
    ∃ analysis, extract .python path content root = .ok analysis ∧
      analysis.symbols = (preorder root).filterMap (definition? bytes path) ∧
      callsOf analysis.relationships = (preorder root).filterMap (call? bytes path) := by
  intro bytes
  have hwalk : ¬Fails (walk (pythonRule bytes path) {} root) := by
    refine walk_not_fails fun o member => ?_
    obtain ⟨chars, hchars⟩ := hdecodes o member
    exact text_not_fails hchars
  obtain ⟨found, hfound⟩ := not_fails_iff.mp hwalk
  refine ⟨found.analysis path, ?_, walk_symbols_and_calls bytes path root found hfound⟩
  change (walk (pythonRule bytes path) {} root).map (Found.analysis path) = _
  rw [hfound]
  rfl

/-- A class `C` with a method `é` that calls `g`. -/
def accentedMethod : Tree :=
  .node "module" 0 4 none
    [.node "class_definition" 0 4 none
      [.node "identifier" 0 1 (some "name") [],
        .node "function_definition" 1 4 none
          [.node "identifier" 1 3 (some "name") [],
            .node "call" 3 4 none [.node "identifier" 3 4 (some "function") []]]]]

theorem extraction_of_accented_method :
    let bytes := Utf8.encode "Cég".toList
    (∀ o ∈ preorder accentedMethod, ∃ chars, Utf8.decode (o.node.bytesIn bytes) = .ok chars) ∧
      ∃ analysis, extract .python "a.py" "Cég" accentedMethod = .ok analysis ∧
        analysis.symbols.map (fun s => (s.name, s.kind, s.parent)) =
          [("C", .classDef, none), ("é", .method, some "C")] ∧
        callsOf analysis.relationships =
          (preorder accentedMethod).filterMap (call? bytes "a.py") := by
  intro bytes
  have hdecodes : ∀ o ∈ preorder accentedMethod, ∃ chars,
      Utf8.decode (o.node.bytesIn bytes) = .ok chars := by
    intro o member
    simp [accentedMethod, preorder, preorderBelow_eq, Branching.parts,
      Tree.children] at member
    rcases member with rfl | rfl | rfl | rfl | rfl | rfl | rfl <;> exact ⟨_, rfl⟩
  obtain ⟨analysis, hextract, hsymbols, hcalls⟩ :=
    python_extraction_is_complete "a.py" "Cég" accentedMethod hdecodes
  have hshown : (extract .python "a.py" "Cég" accentedMethod).toOption.map
      (fun a => a.symbols.map fun s => (s.name, s.kind, s.parent)) =
        some [("C", .classDef, none), ("é", .method, some "C")] := by
    decide +kernel
  rw [hextract] at hshown
  exact ⟨hdecodes, analysis, hextract, Option.some.inj hshown, hcalls⟩

end CodeIndex.Concrete.Extractor
