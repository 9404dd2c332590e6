import CodeIndex.Proofs.Extraction
import CodeIndex.Proofs.Outline

/-!
Which functions of a Python file are methods.

A function is meant to be listed as a method of a class where that class is the innermost definition
around it, and as a plain function where it stands in another function. Both ways to list the
definitions of a file keep the innermost class and the innermost function around a place apart, so
each takes the innermost class at any depth. The two agree on a function exactly if it does not
stand in a function which stands in a class.
-/

namespace CodeIndex

inductive Definer where
  | classOf (name : String)
  | functionOf (name : String)
  deriving DecidableEq, Repr

section Definers

variable {α : Type} (className? functionName? : α → Option String)

def definer? (n : α) : Option Definer :=
  ((className? n).map .classOf).or ((functionName? n).map .functionOf)

def innermostDefiner? (above : List α) : Option Definer :=
  above.findSome? (definer? className? functionName?)

variable {className? functionName?} {n : α} {above : List α}

private theorem definer?_eq_none (h : definer? className? functionName? n = none) :
    className? n = none := by
  unfold definer? at h
  cases hclass : className? n with
  | none => rfl
  | some name => simp [hclass] at h

private theorem definer?_eq_classOf {name : String}
    (h : definer? className? functionName? n = some (.classOf name)) :
    className? n = some name := by
  unfold definer? at h
  cases hclass : className? n with
  | none =>
      rw [hclass, Option.map_none, Option.none_or] at h
      obtain ⟨f, -, hf⟩ := Option.map_eq_some_iff.mp h
      cases hf
  | some other =>
      rw [hclass] at h
      cases h
      rfl

private theorem findSome?_className?_of_none
    (h : innermostDefiner? className? functionName? above = none) :
    above.findSome? className? = none := by
  rw [innermostDefiner?, List.findSome?_eq_none_iff] at h
  exact List.findSome?_eq_none_iff.mpr fun n member => definer?_eq_none (h n member)

/-- A class that is the innermost definition is the innermost class. -/
private theorem findSome?_className?_of_classOf {name : String}
    (h : innermostDefiner? className? functionName? above = some (.classOf name)) :
    above.findSome? className? = some name := by
  obtain ⟨inner, n, outer, rfl, hn, hinner⟩ := List.findSome?_eq_some_iff.mp h
  refine List.findSome?_eq_some_iff.mpr ⟨inner, n, outer, rfl, definer?_eq_classOf hn, ?_⟩
  intro m member
  exact definer?_eq_none (hinner m member)

end Definers

/-- The symbol of a function says what stands around it: it is a method of a class exactly if the
class is the innermost definition, and a plain function if a function is. -/
structure PlacedRightly (s : Symbol) (around : Option Definer) : Prop where
  method : ∀ className, (s.kind = .method ∧ s.parent = some className) ↔
    around = some (.classOf className)
  function : ∀ name, around = some (.functionOf name) → s.kind = .function

structure ListedIn (inClass : Option String) (s : Symbol) : Prop where
  kind : s.kind = if inClass.isSome then .method else .function
  parent : s.parent = inClass

section Placed

variable {α : Type} {className? functionName? : α → Option String} {above : List α} {s : Symbol}

private theorem ListedIn.kind_of_none (h : ListedIn none s) : s.kind = .function :=
  h.kind

private theorem ListedIn.kind_of_some {className : String} (h : ListedIn (some className) s) :
    s.kind = .method :=
  h.kind

private theorem ListedIn.placedRightly_of_none {around : Option Definer} (h : ListedIn none s)
    (haround : ∀ className, around ≠ some (.classOf className)) : PlacedRightly s around := by
  refine ⟨fun className => ⟨fun hmethod => ?_, fun hclass => ?_⟩, fun _ _ => h.kind_of_none⟩
  · have hkind := h.kind_of_none.symm.trans hmethod.1
    cases hkind
  · exact absurd hclass (haround className)

/-- A function that is listed by the innermost class, at any depth, is placed rightly exactly if no
function within a class stands directly around it. -/
private theorem ListedIn.placedRightly_iff (h : ListedIn (above.findSome? className?) s) :
    PlacedRightly s (innermostDefiner? className? functionName? above) ↔
      ∀ name, innermostDefiner? className? functionName? above = some (.functionOf name) →
        above.findSome? className? = none := by
  cases haround : innermostDefiner? className? functionName? above with
  | none =>
      rw [findSome?_className?_of_none haround] at h
      constructor
      · intro _ name hname
        cases hname
      · intro _
        exact h.placedRightly_of_none fun _ hclass => nomatch hclass
  | some around =>
      cases around with
      | classOf name =>
          rw [findSome?_className?_of_classOf haround] at h
          constructor
          · intro _ name hname
            cases hname
          · intro _
            refine ⟨fun className => ?_, fun _ hfunction => nomatch hfunction⟩
            simp [h.kind_of_some, h.parent]
      | functionOf name =>
          constructor
          · intro hplaced _ _
            cases hclass : above.findSome? className? with
            | none => rfl
            | some className =>
                rw [hclass] at h
                have hmethod := (hplaced.method className).mp ⟨h.kind_of_some, h.parent⟩
                cases hmethod
          · intro hnone
            rw [hnone name rfl] at h
            exact h.placedRightly_of_none fun _ hclass => nomatch hclass

end Placed

/-- The symbols are those of the definitions of a tree, in their order. Each function has one, which
is placed rightly unless a function within a class stands directly around it. -/
structure PlacesFunctions {α : Type} [SizeOf α] [Branching α]
    (className? functionName? : α → Option String) (definition? : Occurrence α → Option Symbol)
    (root : α) (symbols : List Symbol) : Prop where
  listed : symbols = (preorder root).filterMap definition?
  placed : ∀ o ∈ preorder root, ∀ name, functionName? o.node = some name →
    ∃ s, definition? o = some s ∧ s.name = name ∧
      (PlacedRightly s (innermostDefiner? className? functionName? o.above) ↔
        ∀ outer, innermostDefiner? className? functionName? o.above = some (.functionOf outer) →
          o.above.findSome? className? = none)

/-! ### Modules -/

namespace Source

private theorem exists_definition?_of_function (path : String) {o : Occurrence Node} {name : String}
    (hname : o.node.functionName? = some name) :
    ∃ s, definition? path o = some s ∧ s.name = name ∧ ListedIn (enclosingClass? o) s := by
  unfold Node.functionName? at hname
  split at hname
  · rename_i hform
    obtain rfl := Option.some.inj hname
    unfold definition? definitionIn?
    cases enclosingClass? o with
    | none =>
        simp only [hform]
        exact ⟨_, rfl, rfl, rfl, rfl⟩
    | some className =>
        simp only [hform]
        exact ⟨_, rfl, rfl, rfl, rfl⟩
  · cases hname

private theorem outline_symbols (path : String) (module : Node) :
    (outline path module).symbols = (preorder module).filterMap (definition? path) :=
  (Walk.visit_module_passes path module).symbols.trans (List.nil_append _)

private theorem outline_placesFunctions (path : String) (module : Node) :
    PlacesFunctions Node.className? Node.functionName? (definition? path) module
      (outline path module).symbols := by
  refine ⟨outline_symbols path module, fun o _ name hname => ?_⟩
  obtain ⟨s, hs, hnamed, hlisted⟩ := exists_definition?_of_function path hname
  exact ⟨s, hs, hnamed, hlisted.placedRightly_iff⟩

end Source

/-! ### Concrete trees -/

namespace Concrete.Extractor

open CodeIndex.Text

def NamesDefinitions (bytes : List UInt8) (root : Tree) : Prop :=
  ∀ o ∈ preorder root, o.node.kind = "function_definition" ∨ o.node.kind = "class_definition" →
    ∃ name, (o.node.child? "name").bind (text? bytes) = some name ∧ name ≠ ""

section Tree

variable {bytes : List UInt8} {root : Tree} {o : Occurrence Tree}

private theorem NamesDefinitions.enclosingClass?_ne (h : NamesDefinitions bytes root)
    (member : o ∈ preorder root) : (pythonNaming bytes).enclosingClass? o ≠ some "" := by
  intro hempty
  obtain ⟨t, ht, hname⟩ := List.exists_of_findSome?_eq_some hempty
  obtain ⟨outer, houter, rfl⟩ := exists_mem_preorder_of_mem_above member ht
  unfold Naming.className? at hname
  split at hname
  · rename_i hkind
    have hclass : outer.node.kind = "class_definition" := by simpa [pythonNaming] using hkind
    obtain ⟨name, hnamed, hne⟩ := h outer houter (.inr hclass)
    exact hne (Option.some.inj (hnamed.symm.trans hname))
  · cases hname

private theorem exists_definition?_of_function (path : String) (h : NamesDefinitions bytes root)
    (member : o ∈ preorder root) {name : String}
    (hname : (pythonNaming bytes).functionName? o.node = some name) :
    ∃ s, definition? bytes path o = some s ∧ s.name = name ∧
      ListedIn ((pythonNaming bytes).enclosingClass? o) s := by
  have hclass := functionKind_eq ((pythonNaming bytes).enclosingClass? o)
  rw [nonEmpty?_eq_self (h.enclosingClass?_ne member)] at hclass
  unfold Naming.functionName? at hname
  split at hname
  · rename_i hfunction
    have hkind : o.node.kind = "function_definition" := by simpa [pythonNaming] using hfunction
    replace hname : (o.node.child? "name").bind (text? bytes) = some name := hname
    rw [definition?, definitionIn?, hname, hkind]
    exact ⟨_, rfl, rfl, hclass, rfl⟩
  · cases hname

private theorem walk_placesFunctions (path : String) (h : NamesDefinitions bytes root) :
    Yields (fun found => PlacesFunctions (pythonNaming bytes).className?
        (pythonNaming bytes).functionName? (definition? bytes path) root found.symbols)
      (walk (pythonRule bytes path) {} root) := by
  intro found hfound
  refine ⟨(walk_symbols_and_calls bytes path root found hfound).1, fun o member name hname => ?_⟩
  obtain ⟨s, hs, hnamed, hlisted⟩ := exists_definition?_of_function path h member hname
  exact ⟨s, hs, hnamed, hlisted.placedRightly_iff⟩

end Tree

end Concrete.Extractor

/-! ### Both ways -/

section BothWays

open Concrete Extractor Text

/-- A Python file is listed from its module or from its concrete tree, where all definitions have
names and, for the extraction to succeed, all nodes have texts. In both ways each function is listed
once, in the order of the walk, as a method of a class if and only if the class is the innermost
definition around it, and as a plain function in another function: but for the functions that stand
directly in a function within a class, none of which is placed rightly. -/
theorem functions_are_placed_rightly_iff (path : String) :
    (∀ module : Source.Node,
      PlacesFunctions Source.Node.className? Source.Node.functionName? (Source.definition? path)
        module (Source.outline path module).symbols) ∧
    ∀ (content : String) (root : Tree),
      let bytes := Utf8.encode content.toList
      NamesDefinitions bytes root →
      ((∀ o ∈ preorder root, ∃ chars, Utf8.decode (o.node.bytesIn bytes) = .ok chars) →
        ∃ analysis, extract .python path content root = .ok analysis) ∧
      ∀ analysis, extract .python path content root = .ok analysis →
        PlacesFunctions (pythonNaming bytes).className? (pythonNaming bytes).functionName?
          (Extractor.definition? bytes path) root analysis.symbols := by
  refine ⟨Source.outline_placesFunctions path, ?_⟩
  intro content root bytes hnames
  constructor
  · intro hdecodes
    have hwalk : ¬Fails (walk (pythonRule bytes path) {} root) :=
      walk_not_fails (texts_not_fail hdecodes)
    rw [← not_fails_iff]
    exact fun hfails => hwalk (fails_map_iff.mp hfails)
  · exact Yields.bind (walk_placesFunctions path hnames) fun found h => .pure h

def bodyOf (form : Source.Form) (parts : List Source.Node) : Source.Node :=
  .mk .body form 1 1 parts

def classInFunction : Source.Node :=
  bodyOf .module
    [bodyOf (.function "f" false) [bodyOf (.classDef "C") [bodyOf (.function "m" true) []]]]

/-- The method of a class in a function, and that of a class in a tree. -/
theorem methods_are_placed_rightly :
    (∃ s ∈ (Source.outline "a.py" classInFunction).symbols, s.name = "m" ∧
      PlacedRightly s (some (.classOf "C"))) ∧
    NamesDefinitions (Utf8.encode "Cég".toList) accentedMethod ∧
      ∃ analysis, extract .python "a.py" "Cég" accentedMethod = .ok analysis ∧
        ∃ s ∈ analysis.symbols, s.name = "é" ∧ PlacedRightly s (some (.classOf "C")) := by
  refine ⟨?_, ?_⟩
  · let inner := bodyOf (.classDef "C") [bodyOf (.function "m" true) []]
    let o : Occurrence Source.Node :=
      ⟨[inner, bodyOf (.function "f" false) [inner], classInFunction], bodyOf (.function "m" true) []⟩
    have member : o ∈ preorder classInFunction := by
      simp [o, inner, classInFunction, preorder, preorderBelow_eq, Branching.parts, bodyOf,
        Source.Node.parts]
    have hplaces := (functions_are_placed_rightly_iff "a.py").1 classInFunction
    obtain ⟨s, hs, hname, hplaced⟩ := hplaces.placed o member "m" rfl
    refine ⟨s, hplaces.listed ▸ List.mem_filterMap.mpr ⟨o, member, hs⟩, hname, ?_⟩
    refine hplaced.mpr fun _ hfunction => ?_
    cases hfunction
  · have hnames : NamesDefinitions (Utf8.encode "Cég".toList) accentedMethod := by
      intro o member hkind
      simp [accentedMethod, preorder, preorderBelow_eq, Branching.parts, Tree.children] at member
      rcases member with rfl | rfl | rfl | rfl | rfl | rfl | rfl <;> simp [Tree.kind] at hkind
      · exact ⟨"C", by decide +kernel, by decide⟩
      · exact ⟨"é", by decide +kernel, by decide⟩
    obtain ⟨hanswers, hplaces⟩ :=
      (functions_are_placed_rightly_iff "a.py").2 "Cég" accentedMethod hnames
    obtain ⟨analysis, hanalysis⟩ := hanswers (by
      intro o member
      simp [accentedMethod, preorder, preorderBelow_eq, Branching.parts, Tree.children] at member
      rcases member with rfl | rfl | rfl | rfl | rfl | rfl | rfl <;> exact ⟨_, rfl⟩)
    let method : Tree := .node "function_definition" 1 4 none
      [.node "identifier" 1 3 (some "name") [],
        .node "call" 3 4 none [.node "identifier" 3 4 (some "function") []]]
    let o : Occurrence Tree :=
      ⟨[.node "class_definition" 0 4 none [.node "identifier" 0 1 (some "name") [], method],
        accentedMethod], method⟩
    have member : o ∈ preorder accentedMethod := by
      simp [o, method, accentedMethod, preorder, preorderBelow_eq, Branching.parts, Tree.children]
    obtain ⟨s, hs, hname, hplaced⟩ :=
      (hplaces analysis hanalysis).placed o member "é" (by decide +kernel)
    have haround : innermostDefiner? (pythonNaming (Utf8.encode "Cég".toList)).className?
        (pythonNaming (Utf8.encode "Cég".toList)).functionName? o.above = some (.classOf "C") := by
      decide +kernel
    rw [haround] at hplaced
    refine ⟨hnames, analysis, hanalysis, s, ?_, hname, hplaced.mpr fun _ hfunction => ?_⟩
    · exact (hplaces analysis hanalysis).listed ▸ List.mem_filterMap.mpr ⟨o, member, hs⟩
    · cases hfunction

def helperInMethod : Source.Node :=
  bodyOf .module
    [bodyOf (.classDef "C") [bodyOf (.function "m" false) [bodyOf (.function "h" false) []]]]

/-- The same class as a concrete tree over the text `Cmh`. -/
def helperInMethodTree : Tree :=
  .node "module" 0 3 none
    [.node "class_definition" 0 3 none
      [.node "identifier" 0 1 (some "name") [],
        .node "function_definition" 1 3 none
          [.node "identifier" 1 2 (some "name") [],
            .node "function_definition" 2 3 none [.node "identifier" 2 3 (some "name") []]]]]

/-- The function in the method is listed as a method of the class in both ways, though the innermost
definition around it is the method. -/
theorem helper_in_method_is_listed_as_method :
    let sketch (s : Symbol) := (s.name, s.kind, s.parent)
    (Source.outline "a.py" helperInMethod).symbols.map sketch =
        [("C", .classDef, none), ("m", .method, some "C"), ("h", .method, some "C")] ∧
      (extract .python "a.py" "Cmh" helperInMethodTree).toOption.map
          (fun analysis => analysis.symbols.map sketch) =
        some [("C", .classDef, none), ("m", .method, some "C"), ("h", .method, some "C")] ∧
      (∃ o ∈ preorder helperInMethod, o.node.functionName? = some "h" ∧
        innermostDefiner? Source.Node.className? Source.Node.functionName? o.above =
          some (.functionOf "m") ∧
        ∃ s, Source.definition? "a.py" o = some s ∧ ¬PlacedRightly s (some (.functionOf "m"))) := by
  refine ⟨by decide, by decide +kernel, ?_⟩
  let helper := bodyOf (.function "h" false) []
  let method := bodyOf (.function "m" false) [helper]
  let o : Occurrence Source.Node :=
    ⟨[method, bodyOf (.classDef "C") [method], helperInMethod], helper⟩
  have member : o ∈ preorder helperInMethod := by
    simp [o, helper, method, helperInMethod, preorder, preorderBelow_eq, Branching.parts, bodyOf,
      Source.Node.parts]
  refine ⟨o, member, rfl, rfl, _, rfl, fun hplaced => ?_⟩
  have hkind := hplaced.function "m" rfl
  cases hkind

end BothWays

end CodeIndex
