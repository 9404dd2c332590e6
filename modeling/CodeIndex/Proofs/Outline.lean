import CodeIndex.Proofs.Locality
import CodeIndex.Proofs.Preorder

/-!
The outline of a Python module, said of the places of its nodes.

The walk keeps the innermost class and the innermost function in two fields that it sets and puts
back as it goes. Here both are read off the nodes around a place: what a node adds depends on its
own form and on the innermost class and function above it, and the walk lists what all the nodes
add, in the order of `preorder`.

The proof follows one visit. The parts of a node are visited in a state that has what the node
itself adds, and in which the node is the innermost class or function if it is one (`Enters`); after
the parts both fields are as they were (`visit_scope`).
-/

namespace CodeIndex.Source

open CodeIndex.Text

/-! ### What a node adds -/

def Node.className? (n : Node) : Option String :=
  match n.form with
  | .classDef name => some name
  | _ => none

def Node.functionName? (n : Node) : Option String :=
  match n.form with
  | .function name _ => some name
  | _ => none

def enclosingClass? (o : Occurrence Node) : Option String :=
  o.above.findSome? Node.className?

def enclosingFunction? (o : Occurrence Node) : Option String :=
  o.above.findSome? Node.functionName?

def definitionIn? (path : String) (inClass : Option String) (n : Node) : Option Symbol :=
  match n.form, inClass with
  | .function name _, some className =>
    some
      { name
        kind := .method
        filePath := path
        lineStart := n.line
        lineEnd := n.endLine
        signature := some (signatureOf name n.parameterNames)
        docText := n.docText?
        parent := some className }
  | .function name _, none =>
    some
      { name
        kind := .function
        filePath := path
        lineStart := n.line
        lineEnd := n.endLine
        signature := some (signatureOf name n.parameterNames)
        docText := n.docText?
        parent := none }
  | .classDef name, _ =>
    some
      { name
        kind := .classDef
        filePath := path
        lineStart := n.line
        lineEnd := n.endLine
        docText := n.docText?
        parent := none }
  | _, _ => none

def definition? (path : String) (o : Occurrence Node) : Option Symbol :=
  definitionIn? path (enclosingClass? o) o.node

/-- The names of a chain of members in the order of the text, with the name in front of them when
they start at one. -/
def Node.dotted : Node → List String
  | .mk _ (.name id) _ _ _ => [id]
  | .mk _ (.member id) _ _ [value] => value.dotted ++ [id]
  | _ => []

def Node.calledBy? (n : Node) : Option String :=
  match n.form with
  | .name _ | .member _ => some (joinStrings "." n.dotted)
  | _ => none

def relationshipsIn (path : String) (inClass inFunction : Option String) (n : Node) :
    List Relationship :=
  match n.form with
  | .classDef name =>
    ((n.partsIn .base).filterMap Node.nameId?).map fun base =>
      { sourceFile := path, source := name, line := n.line, target := base, kind := .inherits }
  | .importModules names =>
    names.map fun name =>
      { sourceFile := path, source := moduleName, line := n.line, target := name, kind := .imports,
        isExternal := true }
  | .importNames (some source) names =>
    if source = "" then []
    else
      names.map fun name =>
        { sourceFile := path, source := moduleName, line := n.line, target := source ++ "." ++ name,
          kind := .imports, isExternal := true }
  | .call =>
    match inFunction.or inClass, (n.partsIn .callee).head?.bind Node.calledBy? with
    | some source, some target =>
      [{ sourceFile := path, source, line := n.line, target, kind := .calls }]
    | _, _ => []
  | _ => []

def relationshipsAt (path : String) (o : Occurrence Node) : List Relationship :=
  relationshipsIn path (enclosingClass? o) (enclosingFunction? o) o.node

/-! ### The names of calls -/

/-- The chain that the walk takes apart from its end, put together again. -/
private theorem Node.dotted_eq (n : Node) :
    n.dotted = (memberChain n).2.nameId?.toList ++ (memberChain n).1.reverse := by
  fun_induction memberChain n with
  | case1 _ id _ _ value ids base hchain ih =>
      rw [hchain] at ih
      simp [Node.dotted, ih]
  | case2 n hmember =>
      simp only [List.reverse_nil, List.append_nil]
      fun_cases Node.dotted n with
      | case1 => rfl
      | case2 role id line endLine value => exact absurd rfl (hmember role id line endLine value)
      | case3 n hname =>
          cases n with
          | mk role form line endLine parts =>
              cases form with
              | name id => exact absurd rfl (hname role id line endLine parts)
              | _ => rfl

private theorem callName?_eq (callee : Node) : callName? callee = callee.calledBy? := by
  unfold callName? Node.calledBy?
  cases hform : callee.form with
  | name id =>
      cases callee
      cases hform
      rfl
  | member id =>
      simp only [callee.dotted_eq, Node.nameId?]
      split <;> rfl
  | _ => rfl

/-! ### One visit -/

instance : Branching Node where
  parts := Node.parts
  sizeOf_lt {t p} hp := by
    cases t
    have := List.sizeOf_lt_of_mem hp
    simp only [Node.parts, Node.mk.sizeOf_spec] at this ⊢
    omega

namespace Walk

mutual
/-- A visit leaves the class and the function that it is made in as they were. -/
private theorem visit_scope (path : String) (w : Walk) :
    ∀ n : Node, (w.visit path n).inClass = w.inClass ∧ (w.visit path n).inFunction = w.inFunction
  | .mk role form line endLine parts => by
      unfold visit
      simp only
      split
      · exact visitAll_scope path _ parts
      · split
        · exact visitAll_scope path w parts
        · exact visitAll_scope path _ parts
      -- A definition puts its own field back; the other one is kept by its parts.
      · exact ⟨(visitAll_scope path _ parts).1, rfl⟩
      · exact ⟨rfl, (visitAll_scope path _ parts).2⟩
      · split
        · exact visitAll_scope path w parts
        · exact visitAll_scope path _ parts
      · exact visitAll_scope path w parts

private theorem visitAll_scope (path : String) (w : Walk) :
    ∀ ns : List Node, (w.visitAll path ns).inClass = w.inClass ∧
      (w.visitAll path ns).inFunction = w.inFunction
  | [] => ⟨rfl, rfl⟩
  | n :: others => by
      have hfirst := visit_scope path w n
      have hothers := visitAll_scope path (w.visit path n) others
      exact ⟨hothers.1.trans hfirst.1, hothers.2.trans hfirst.2⟩
end

/-- The state in which the parts of a node are visited: the node has added what it adds in the
class and the function of the walk, and is now the innermost of them if it is one. -/
structure Enters (path : String) (w : Walk) (n : Node) (inner : Walk) : Prop where
  symbols : inner.symbols = w.symbols ++ (definitionIn? path w.inClass n).toList
  relationships : inner.relationships =
    w.relationships ++ relationshipsIn path w.inClass w.inFunction n
  inClass : inner.inClass = n.className?.or w.inClass
  inFunction : inner.inFunction = n.functionName?.or w.inFunction

section Visit

variable {path : String}

private theorem enters_self {w : Walk} {n : Node}
    (hdefinition : definitionIn? path w.inClass n = none)
    (hrelationships : relationshipsIn path w.inClass w.inFunction n = [])
    (hclass : n.className? = none) (hfunction : n.functionName? = none) : w.Enters path n w := by
  constructor <;> simp [*]

private theorem relationshipsIn_call (path : String) (w : Walk) {n : Node}
    (hcall : n.form = .call) :
    relationshipsIn path w.inClass w.inFunction n =
      (w.caller?.bind fun source => callRelationship? path source n).toList := by
  have hname : (n.partsIn .callee).head?.bind callName? =
      (n.partsIn .callee).head?.bind Node.calledBy? := by
    simp only [funext callName?_eq]
  simp only [relationshipsIn, hcall, callRelationship?, hname, caller?]
  cases w.inFunction.or w.inClass with
  | none => rfl
  | some source => cases (n.partsIn .callee).head?.bind Node.calledBy? <;> rfl

/-- A visit of a node is one of its parts, from the state that the node is entered in. -/
private theorem visit_enters (path : String) (w : Walk) (n : Node) :
    ∃ inner, w.Enters path n inner ∧
      (w.visit path n).symbols = (inner.visitAll path n.parts).symbols ∧
      (w.visit path n).relationships = (inner.visitAll path n.parts).relationships := by
  cases n with
  | mk role form line endLine parts =>
      unfold visit
      cases form with
      | importModules names =>
          exact ⟨(w.addImports names).addRelationships (names.map (importRelationship path line)),
            ⟨(List.append_nil _).symm, rfl, rfl, rfl⟩, rfl, rfl⟩
      | importNames source names =>
          cases source with
          | none => exact ⟨w, enters_self rfl rfl rfl rfl, rfl, rfl⟩
          | some source =>
              by_cases hsource : source = ""
              · subst hsource
                exact ⟨w, enters_self rfl rfl rfl rfl, rfl, rfl⟩
              · simp only [String.isEmpty_iff, hsource, if_false]
                refine ⟨(w.addImports [source]).addRelationships (names.map fun name =>
                  importRelationship path line (source ++ "." ++ name)),
                  ⟨(List.append_nil _).symm, ?_, rfl, rfl⟩, rfl, rfl⟩
                simp only [relationshipsIn, Node.form, hsource, if_false]
                rfl
      | function name isAsync =>
          let n : Node := .mk role (.function name isAsync) line endLine parts
          refine ⟨{ w.addSymbol (functionSymbol path w.inClass name n) with
            inFunction := some name }, ⟨?_, (List.append_nil _).symm, rfl, rfl⟩, rfl, rfl⟩
          simp only [definitionIn?, Node.form, addSymbol, functionSymbol]
          cases w.inClass <;> rfl
      | classDef name =>
          let n : Node := .mk role (.classDef name) line endLine parts
          let found := (w.addSymbol (classSymbol path name n)).addRelationships
            (baseRelationships path name n)
          exact ⟨{ found with inClass := some name }, ⟨rfl, rfl, rfl, rfl⟩, rfl, rfl⟩
      | call =>
          let n : Node := .mk role .call line endLine parts
          have hcall := relationshipsIn_call path w (show n.form = .call from rfl)
          simp only
          cases hcaller : w.caller? with
          | none =>
              rw [hcaller] at hcall
              exact ⟨w, enters_self rfl hcall rfl rfl, rfl, rfl⟩
          | some source =>
              rw [hcaller] at hcall
              exact ⟨w.addRelationships (callRelationship? path source n).toList,
                ⟨(List.append_nil _).symm, congrArg _ hcall.symm, rfl, rfl⟩, rfl, rfl⟩
      | _ => exact ⟨w, enters_self rfl rfl rfl rfl, rfl, rfl⟩

end Visit

/-! ### The whole walk -/

structure StandsIn (w : Walk) (above : List Node) : Prop where
  inClass : w.inClass = above.findSome? Node.className?
  inFunction : w.inFunction = above.findSome? Node.functionName?

/-- The walk has come past the occurrences and has added what they add, in their order. -/
structure Passes (path : String) (os : List (Occurrence Node)) (w after : Walk) : Prop where
  symbols : after.symbols = w.symbols ++ os.filterMap (definition? path)
  relationships : after.relationships = w.relationships ++ os.flatMap (relationshipsAt path)

section Passes

variable {path : String} {w inner after : Walk} {n : Node} {above : List Node}
  {os later : List (Occurrence Node)}

private theorem Enters.standsIn (h : w.Enters path n inner) (hw : w.StandsIn above) :
    inner.StandsIn (n :: above) := by
  constructor
  · rw [h.inClass, hw.inClass, List.findSome?_cons]
    cases n.className? <;> rfl
  · rw [h.inFunction, hw.inFunction, List.findSome?_cons]
    cases n.functionName? <;> rfl

private theorem Enters.passes (h : w.Enters path n inner) (hw : w.StandsIn above) :
    Passes path [⟨above, n⟩] w inner := by
  constructor
  · have hown : definition? path ⟨above, n⟩ =
        definitionIn? path (above.findSome? Node.className?) n := rfl
    rw [h.symbols, hw.inClass, List.filterMap_cons, hown]
    cases definitionIn? path (above.findSome? Node.className?) n <;> rfl
  · rw [h.relationships, hw.inClass, hw.inFunction, List.flatMap_singleton]
    rfl

private theorem Passes.append (h : Passes path os w inner)
    (hlater : Passes path later inner after) :
    Passes path (os ++ later) w after := by
  constructor
  · rw [hlater.symbols, h.symbols, List.filterMap_append, List.append_assoc]
  · rw [hlater.relationships, h.relationships, List.flatMap_append, List.append_assoc]

private theorem visitAll_passes {ns : List Node}
    (hvisit : ∀ n ∈ ns, ∀ w : Walk, w.StandsIn above →
      Passes path (preorderBelow above n) w (w.visit path n))
    (w : Walk) (hw : w.StandsIn above) :
    Passes path (ns.flatMap (preorderBelow above)) w (w.visitAll path ns) := by
  induction ns generalizing w with
  | nil => exact ⟨(List.append_nil _).symm, (List.append_nil _).symm⟩
  | cons n others ih =>
      have hscope := visit_scope path w n
      have hstands : (w.visit path n).StandsIn above :=
        ⟨hscope.1.trans hw.inClass, hscope.2.trans hw.inFunction⟩
      have hfirst := hvisit n List.mem_cons_self w hw
      exact hfirst.append (ih (fun m hm => hvisit m (List.mem_cons_of_mem n hm)) _ hstands)

/-- A visit passes the node and all that lies below it. -/
private theorem visit_passes (n : Node) : ∀ (w : Walk) (above : List Node), w.StandsIn above →
    Passes path (preorderBelow above n) w (w.visit path n) := by
  induction n using Branching.induction with
  | node n ih =>
      intro w above hw
      obtain ⟨inner, hinner, hsymbols, hrelationships⟩ := visit_enters path w n
      have hparts := visitAll_passes (fun p hp w => ih p hp w (n :: above)) inner
        (hinner.standsIn hw)
      have hall := (hinner.passes hw).append hparts
      rw [preorderBelow_eq]
      exact ⟨hsymbols.trans hall.symbols, hrelationships.trans hall.relationships⟩

end Passes

theorem visit_module_passes (path : String) (module : Node) :
    Passes path (preorder module) {} (Walk.visit path {} module) :=
  visit_passes module {} [] ⟨rfl, rfl⟩

/-- The symbols of a module are its functions and classes at any depth, each once and in the order
of the walk, a function as a method of the innermost class around it if there is one. No visit
changes the class and the function that the walk is in. -/
theorem visit_lists_definitions (path : String) (module : Node) :
    (Walk.visit path {} module).symbols = (preorder module).filterMap (definition? path) ∧
      ∀ (w : Walk) (n : Node),
        (w.visit path n).inClass = w.inClass ∧ (w.visit path n).inFunction = w.inFunction := by
  refine ⟨?_, visit_scope path⟩
  have hpasses := visit_module_passes path module
  exact hpasses.symbols.trans (List.nil_append _)

/-- The relationships of a module are the plain names that its classes have as bases, the modules
and names that it imports, and the calls inside of its definitions, in the order of the walk. All of
them lie in the file. -/
theorem visit_lists_relationships (path : String) (module : Node) :
    (Walk.visit path {} module).relationships =
        (preorder module).flatMap (relationshipsAt path) ∧
      ∀ r ∈ (Walk.visit path {} module).relationships, r.sourceFile = path := by
  refine ⟨?_, (visit_lieIn {} (.nil path) module).relationships⟩
  have hpasses := visit_module_passes path module
  exact hpasses.relationships.trans (List.nil_append _)

/-- A class `A` with the base `B` and a method `f` whose body is `a.b.c(g())`. -/
def nestedCalls : Node :=
  let argument : Node := .mk .part .call 3 3 [.mk .callee (.name "g") 3 3 []]
  let chain : Node := .mk .callee (.member "c") 3 3
    [.mk .part (.member "b") 3 3 [.mk .part (.name "a") 3 3 []]]
  let method : Node := .mk .body (.function "f" false) 2 3
    [.mk .body .expression 3 3 [.mk .part .call 3 3 [chain, argument]]]
  .mk .part .module 1 3
    [.mk .body (.classDef "A") 1 3 [.mk .base (.name "B") 1 1 [], method]]

theorem relationships_of_nested_calls :
    let found := (Walk.visit "a.py" {} nestedCalls).relationships
    let chained : Relationship :=
      { sourceFile := "a.py", source := "f", line := 3, target := "a.b.c", kind := .calls }
    found.map (fun r => (r.kind.label, r.source, r.target)) =
        [("inherits", "A", "B"), ("calls", "f", "a.b.c"), ("calls", "f", "g")] ∧
      chained ∈ found ∧ chained.sourceFile = "a.py" :=
  ⟨by decide, by decide, (visit_lists_relationships "a.py" nestedCalls).2 _ (by decide)⟩

end Walk

end CodeIndex.Source
