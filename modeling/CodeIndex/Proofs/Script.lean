import CodeIndex.Concrete.Script
import CodeIndex.Proofs.TreeWalk

/-!
When the analysis of a script fails, and what it lists when it does not.

The only node that can fail is a call: its name is put together along the objects of its members,
and a member without an object has no name to offer. The name is asked for only inside of a
definition whose name is not empty. A failure deep in the tree drops all that was found before it.
-/

namespace CodeIndex.Concrete.Script

open CodeIndex.Text

def naming (content : List Char) : Naming where
  classes := ["class_declaration"]
  functions := ["function_declaration", "method_definition"]
  textOf t := some (text content t)

def definitionIn? (content : List Char) (bytes : List UInt8) (path : String)
    (inClass : Option String) (t : Tree) : Option Symbol :=
  (t.child? "name").bind fun nameNode =>
    let name := text content nameNode
    let function (kind : SymbolKind) : Symbol :=
      { name
        kind
        filePath := path
        lineStart := t.firstLine bytes
        lineEnd := t.lastLine bytes
        signature := some (signature content name t)
        parent := inClass }
    match t.kind with
    | "function_declaration" => some (function .function)
    | "method_definition" => some (function .method)
    | "class_declaration" =>
      some
        { name
          kind := .classDef
          filePath := path
          lineStart := t.firstLine bytes
          lineEnd := t.lastLine bytes
          parent := none }
    | _ => none

def definition? (content : List Char) (bytes : List UInt8) (path : String) (o : Occurrence Tree) :
    Option Symbol :=
  definitionIn? content bytes path ((naming content).enclosingClass? o) o.node

/-- A chain of members, each the object of the one before, that ends in a member without an
object. -/
inductive EndsInNothing : Tree → Prop where
  | here {t : Tree} (member : t.kind = "member_expression") (nothing : t.child? "object" = none) :
      EndsInNothing t
  | there {t object : Tree} (member : t.kind = "member_expression")
      (next : t.child? "object" = some object) (rest : EndsInNothing object) : EndsInNothing t

/-- A call in a definition whose name is not empty, of a chain that ends in nothing. -/
structure BrokenCall (content : List Char) (o : Occurrence Tree) : Prop where
  call : o.node.kind = "call_expression"
  inside : ∃ name, name ≠ "" ∧ ((naming content).enclosingFunction? o = some name ∨
    (naming content).enclosingClass? o = some name)
  chain : ∃ callee, o.node.child? "function" = some callee ∧ EndsInNothing callee

/-! ### Chains of members -/

variable {content : List Char} {bytes : List UInt8} {path : String} {scope inner : Scope}
  {t : Tree} {own : Found}

private theorem objectNames_eq (content : List Char) (children : List Tree) :
    objectNames content children =
      (children.find? fun c => c.field == some "object").elim (.error .memberOfNothing)
        (memberNames content) := by
  induction children with
  | nil => rw [objectNames, List.find?_nil, Option.elim_none]
  | cons c others ih =>
      cases c with
      | node kind start stop field children =>
          have hfield : (Tree.node kind start stop field children).field = field := rfl
          rw [objectNames, List.find?_cons, hfield]
          cases field == some "object" with
          | true => rfl
          | false => exact ih

private theorem memberNames_of_member (hkind : t.kind = "member_expression") :
    memberNames content t =
      ((t.child? "object").elim (.error .memberOfNothing) (memberNames content)).map
        fun names => ((t.child? "property").map (text content)).toList ++ names := by
  cases t
  simp only [Tree.kind] at hkind
  rw [memberNames, objectNames_eq, hkind]
  rfl

private theorem memberNames_of_other (hkind : t.kind ≠ "member_expression") :
    ¬Fails (memberNames content t) := by
  cases t
  rw [Tree.kind] at hkind
  rw [memberNames]
  simp only [beq_iff_eq, hkind, if_false]
  split <;> exact not_fails_ok _

private theorem EndsInNothing.kind (h : EndsInNothing t) : t.kind = "member_expression" := by
  cases h with
  | here member => exact member
  | there member => exact member

private theorem EndsInNothing.object (h : EndsInNothing t) {object : Tree}
    (hobject : t.child? "object" = some object) : EndsInNothing object := by
  cases h with
  | here _ nothing =>
      rw [nothing] at hobject
      cases hobject
  | there _ next rest =>
      rw [next] at hobject
      cases hobject
      exact rest

/-- The names of a chain cannot be had if, and only if, it ends in nothing. -/
private theorem memberNames_fails_iff (content : List Char) (t : Tree) :
    Fails (memberNames content t) ↔ EndsInNothing t := by
  induction t using Branching.induction with
  | node t ih =>
      by_cases hkind : t.kind = "member_expression"
      · rw [memberNames_of_member hkind, fails_map_iff]
        cases hobject : t.child? "object" with
        | none => exact ⟨fun _ => .here hkind hobject, fun _ => fails_error _⟩
        | some object =>
            rw [Option.elim_some, ih object (Tree.mem_of_child? hobject)]
            exact ⟨.there hkind hobject, fun h => h.object hobject⟩
      · exact ⟨fun h => absurd h (memberNames_of_other hkind), fun h => absurd h.kind hkind⟩

private theorem calleeName_fails_iff (content : List Char) (callee : Tree) :
    Fails (calleeName content callee) ↔ EndsInNothing callee := by
  unfold calleeName
  by_cases hmember : callee.kind = "member_expression"
  · rw [hmember, ← memberNames_fails_iff content]
    exact fails_map_iff
  · have hnever : ¬EndsInNothing callee := fun h => hmember h.kind
    simp only [beq_iff_eq, hmember, if_false, hnever, iff_false]
    split <;> exact not_fails_ok _

/-! ### One node -/

private theorem nonEmpty?_eq_none_iff {name? : Option String} :
    nonEmpty? name? = none ↔ ∀ name, name? = some name → name = "" := by
  cases name? with
  | none => simp [nonEmpty?]
  | some name => by_cases h : name = "" <;> simp [nonEmpty?, h]

private theorem caller?_eq_none_iff : caller? scope = none ↔
    ¬∃ name, name ≠ "" ∧ (scope.inFunction = some name ∨ scope.inClass = some name) := by
  unfold caller?
  rw [Option.or_eq_none_iff, nonEmpty?_eq_none_iff, nonEmpty?_eq_none_iff]
  grind

private theorem callOf_fails_iff : Fails (callOf content bytes path scope t) ↔
    (∃ name, name ≠ "" ∧ (scope.inFunction = some name ∨ scope.inClass = some name)) ∧
      ∃ callee, t.child? "function" = some callee ∧ EndsInNothing callee := by
  unfold callOf
  cases hcaller : caller? scope with
  | none =>
      have houtside := caller?_eq_none_iff.mp hcaller
      simp only [houtside, false_and, iff_false]
      exact not_fails_ok _
  | some source =>
      have hinside : ∃ name, name ≠ "" ∧
          (scope.inFunction = some name ∨ scope.inClass = some name) :=
        Classical.not_not.mp fun h => by
          rw [caller?_eq_none_iff.mpr h] at hcaller
          cases hcaller
      simp only [hinside, true_and]
      cases hcallee : t.child? "function" with
      | none => simp [not_fails_ok, pure, Except.pure]
      | some callee =>
          simp only [Option.some.injEq, exists_eq_left']
          rw [← calleeName_fails_iff content]
          refine fails_bind_iff fun target => ?_
          split <;> exact not_fails_ok _

/-- A call adds no symbols. -/
theorem callOf_symbols :
    Yields (fun found => found.symbols = []) (callOf content bytes path scope t) := by
  unfold callOf
  split
  · refine .after fun target => ?_
    split <;> exact .pure rfl
  · exact .pure rfl

theorem definitionIn?_of_unnamed (hname : t.child? "name" = none) (inClass : Option String) :
    definitionIn? content bytes path inClass t = none := by
  rw [definitionIn?, hname]
  rfl

theorem definitionIn?_of_other
    (hkind : t.kind ∉ ["class_declaration", "function_declaration", "method_definition"])
    (inClass : Option String) : definitionIn? content bytes path inClass t = none := by
  simp only [List.mem_cons, List.not_mem_nil, or_false, not_or] at hkind
  obtain ⟨hclass, hfunction, hmethod⟩ := hkind
  simp [definitionIn?]

def Enters (content : List Char) (bytes : List UInt8) (path : String) (scope : Scope) (t : Tree)
    (result : Found × Scope) : Prop :=
  result.1.symbols = (definitionIn? content bytes path scope.inClass t).toList ∧
    result.2 = (naming content).enter scope t

private theorem enters_unnamed (hname : t.child? "name" = none) :
    Enters content bytes path scope t ({}, scope) := by
  have hself : (naming content).enter scope t = scope :=
    Naming.enter_of_unnamed (by rw [hname, Option.bind_none])
  refine ⟨?_, hself.symm⟩
  rw [definitionIn?_of_unnamed hname]
  rfl

private theorem enters_other
    (hkind : t.kind ∉ ["class_declaration", "function_declaration", "method_definition"])
    (hown : own.symbols = []) : Enters content bytes path scope t (own, scope) := by
  have hnone : definitionIn? content bytes path scope.inClass t = none :=
    definitionIn?_of_other hkind scope.inClass
  simp only [List.mem_cons, List.not_mem_nil, or_false, not_or] at hkind
  obtain ⟨hclass, hfunction, hmethod⟩ := hkind
  have hself : (naming content).enter scope t = scope :=
    Naming.enter_of_other (by simp [naming, hclass]) (by simp [naming, hfunction, hmethod])
  refine ⟨?_, hself.symm⟩
  rw [hown, hnone]
  rfl

private theorem functionOf_enters {kind : SymbolKind} {name : Tree}
    (hname : t.child? "name" = some name)
    (hkind : t.kind = "function_declaration" ∧ kind = .function ∨
      t.kind = "method_definition" ∧ kind = .method) :
    Enters content bytes path scope t (functionOf content bytes path kind scope t name) := by
  have henter : (naming content).enter scope t =
      { scope with inFunction := some (text content name) } := by
    apply Naming.enter_of_function
    · rcases hkind with ⟨hkind, -⟩ | ⟨hkind, -⟩ <;> simp [naming, hkind]
    · rcases hkind with ⟨hkind, -⟩ | ⟨hkind, -⟩ <;> simp [naming, hkind]
    · rw [hname]
      rfl
  refine ⟨?_, henter.symm⟩
  rcases hkind with ⟨hkind, rfl⟩ | ⟨hkind, rfl⟩
  · simp [definitionIn?, functionOf, hkind, hname]
  · simp [definitionIn?, functionOf, hkind, hname]

private theorem classOf_enters {name : Tree} (hname : t.child? "name" = some name)
    (hkind : t.kind = "class_declaration") :
    Enters content bytes path scope t (classOf content bytes path scope t name) := by
  have henter : (naming content).enter scope t =
      { scope with inClass := some (text content name) } := by
    apply Naming.enter_of_class
    · simp [naming, hkind]
    · simp [naming, hkind]
    · rw [hname]
      rfl
  refine ⟨?_, henter.symm⟩
  simp [definitionIn?, classOf, hkind, hname]

private theorem rule_enters (scope : Scope) (t : Tree) :
    Yields (Enters content bytes path scope t) (rule content bytes path scope t) := by
  unfold rule
  split
  · rename_i hkind
    split
    · exact .pure (enters_other (by simp [hkind]) rfl)
    · exact .pure (enters_other (by simp [hkind]) rfl)
  · rename_i hkind
    split
    · rename_i name hname
      exact .pure (functionOf_enters hname (.inl ⟨hkind, rfl⟩))
    · rename_i hname
      exact .pure (enters_unnamed hname)
  · rename_i hkind
    split
    · rename_i name hname
      exact .pure (functionOf_enters hname (.inr ⟨hkind, rfl⟩))
    · rename_i hname
      exact .pure (enters_unnamed hname)
  · rename_i hkind
    split
    · rename_i name hname
      exact .pure (classOf_enters hname hkind)
    · rename_i hname
      exact .pure (enters_unnamed hname)
  · rename_i hkind
    exact .bind callOf_symbols fun found hfound => .pure (enters_other (by simp [hkind]) hfound)
  · rename_i hfunction hmethod hclass _
    refine .pure (enters_other ?_ rfl)
    simp only [List.mem_cons, List.not_mem_nil, or_false, not_or]
    exact ⟨hclass, hfunction, hmethod⟩

private theorem rule_fails_iff : Fails (rule content bytes path scope t) ↔
    t.kind = "call_expression" ∧ Fails (callOf content bytes path scope t) := by
  by_cases hcall : t.kind = "call_expression"
  · simp only [rule, hcall, true_and]
    exact fails_map_iff
  · simp only [hcall, false_and, iff_false]
    unfold rule
    split
    · split <;> exact not_fails_ok _
    · split <;> exact not_fails_ok _
    · split <;> exact not_fails_ok _
    · split <;> exact not_fails_ok _
    · exact absurd ‹_› hcall
    · exact not_fails_ok _

/-! ### The whole analysis -/

private theorem walk_eq_gather_foundAt (content : List Char) (bytes : List UInt8) (path : String)
    (root : Tree) : walk (rule content bytes path) {} root =
      gather (foundAt (rule content bytes path) (naming content).scopeOf) (preorder root) :=
  (naming content).walk_eq_gather (fun scope t result h => (rule_enters scope t result h).2) root

private theorem foundAt_fails_iff (o : Occurrence Tree) :
    Fails (foundAt (rule content bytes path) (naming content).scopeOf o) ↔
      BrokenCall content o := by
  unfold foundAt
  rw [fails_map_iff, rule_fails_iff, callOf_fails_iff]
  exact ⟨fun ⟨call, inside, chain⟩ => ⟨call, inside, chain⟩,
    fun h => ⟨h.call, h.inside, h.chain⟩⟩

private theorem walk_fails_iff (content : List Char) (bytes : List UInt8) (path : String)
    (root : Tree) :
    Fails (walk (rule content bytes path) {} root) ↔
      ∃ o ∈ preorder root, BrokenCall content o := by
  rw [walk_eq_gather_foundAt, gather_fails_iff]
  simp only [foundAt_fails_iff]

/-- What the walk gives are the symbols of all definitions with a name, in the order of the text. -/
theorem walk_symbols (content : List Char) (bytes : List UInt8) (path : String) (root : Tree) :
    Yields (fun found => found.symbols =
        (preorder root).filterMap (definition? content bytes path))
      (walk (rule content bytes path) {} root) := by
  have hown (o : Occurrence Tree) :
      Yields (fun own => own.symbols = (definition? content bytes path o).toList)
        (foundAt (rule content bytes path) (naming content).scopeOf o) :=
    .bind (rule_enters _ o.node) fun _ h => .pure h.1
  rw [walk_eq_gather_foundAt]
  exact gather_view Found.symbols rfl (fun _ _ => rfl) fun o _ => hown o

/-- The analysis of a script fails if a call inside of a definition breaks, and then holds nothing
else. If none does, its symbols are the functions, methods and classes that have a name, at any
depth, each once and in the order of the walk, with the innermost class around them as the parent of
functions and methods. -/
theorem analysis_is_all_or_nothing (path content : String) (root : Tree) :
    let analysis := analyze path content (.ok root)
    let broken := ∃ o ∈ preorder root, BrokenCall content.toList o
    (analysis.failure.isSome ↔ broken) ∧
      (broken → analysis.symbols = [] ∧ analysis.relationships = [] ∧ analysis.imports = [] ∧
        analysis.summary = none) ∧
      (¬broken → analysis.symbols = (preorder root).filterMap
        (definition? content.toList (Utf8.encode content.toList) path)) := by
  intro analysis broken
  let chars := content.toList
  let bytes := Utf8.encode chars
  have hfails : Fails (walk (rule chars bytes path) {} root) ↔ broken :=
    walk_fails_iff chars bytes path root
  cases hwalk : walk (rule chars bytes path) {} root with
  | error failure =>
      have hanalysis : analysis = .failed path failure := by
        simp only [analysis, analyze]
        rw [hwalk]
      have hbroken : broken := hfails.mp ⟨failure, hwalk⟩
      rw [hanalysis]
      exact ⟨⟨fun _ => hbroken, fun _ => rfl⟩, fun _ => ⟨rfl, rfl, rfl, rfl⟩,
        fun hsound => absurd hbroken hsound⟩
  | ok found =>
      have hanalysis : analysis = { found.analysis path with summary := summary? chars root } := by
        simp only [analysis, analyze]
        rw [hwalk]
      have hsound : ¬broken := by
        rw [← hfails, hwalk]
        exact not_fails_ok found
      rw [hanalysis]
      exact ⟨⟨fun h => absurd h Bool.false_ne_true, fun hbroken => absurd hbroken hsound⟩,
        fun hbroken => absurd hbroken hsound,
        fun _ => walk_symbols chars bytes path root found hwalk⟩

/-- A function `f` whose body calls the member `g`, of the given object if there is one. -/
def memberCall (object : List Tree) : Tree :=
  .node "program" 0 3 none
    [.node "function_declaration" 0 3 none
      [.node "identifier" 0 1 (some "name") [],
        .node "call_expression" 1 3 none
          [.node "member_expression" 1 3 (some "function")
            (object ++ [.node "property_identifier" 2 3 (some "property") []])]]]

theorem analysis_of_member_calls :
    let nothing := memberCall []
    let object := memberCall [.node "identifier" 1 2 (some "object") []]
    ((∃ o ∈ preorder nothing, BrokenCall "fog".toList o) ∧
        (analyze "a.js" "fog" (.ok nothing)).symbols = []) ∧
      (¬∃ o ∈ preorder object, BrokenCall "fog".toList o) ∧
        ((preorder object).filterMap (definition? "fog".toList
          (Utf8.encode "fog".toList) "a.js")).map Symbol.name = ["f"] := by
  intro nothing object
  have hnothing := analysis_is_all_or_nothing "a.js" "fog" nothing
  have hobject := analysis_is_all_or_nothing "a.js" "fog" object
  have hbroken := hnothing.1.mp (by decide +kernel)
  have hsound : ¬∃ o ∈ preorder object, BrokenCall "fog".toList o :=
    fun h => absurd (hobject.1.mpr h) (by decide +kernel)
  refine ⟨⟨hbroken, (hnothing.2.1 hbroken).1⟩, hsound, ?_⟩
  rw [← hobject.2.2 hsound]
  decide +kernel

end CodeIndex.Concrete.Script
