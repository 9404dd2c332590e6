import CodeIndex.Language.Grammar
import CodeIndex.Source.Outline

/-!
An analysis speaks of its own file only.

The symbols of an analysis are kept under the path that was analysed, but its relationships under
the file that each of them names. Were that another file, the analysis of one file would write into
the call graph of another. Both ways to analyse a file, by its text and by a concrete tree, start
from nothing and only ever add what carries the path they were given, so this is an induction along
the two walks. A failed analysis has neither symbols nor relationships.
-/

namespace CodeIndex

structure LieIn (path : String) (symbols : List Symbol) (relationships : List Relationship) :
    Prop where
  symbols : ∀ s ∈ symbols, s.filePath = path
  relationships : ∀ r ∈ relationships, r.sourceFile = path

section Lists

variable {path : String} {symbols moreSymbols : List Symbol}
  {relationships moreRelationships : List Relationship}

theorem LieIn.nil (path : String) : LieIn path [] [] :=
  ⟨by simp, by simp⟩

private theorem LieIn.append (h : LieIn path symbols relationships)
    (hmore : LieIn path moreSymbols moreRelationships) :
    LieIn path (symbols ++ moreSymbols) (relationships ++ moreRelationships) := by
  refine ⟨?_, ?_⟩
  · intro s member
    rcases List.mem_append.mp member with old | new
    · exact h.symbols s old
    · exact hmore.symbols s new
  · intro r member
    rcases List.mem_append.mp member with old | new
    · exact h.relationships r old
    · exact hmore.relationships r new

private theorem Analysis.failed_lieIn (path : String) (failure : AnalysisFailure) :
    LieIn path (Analysis.failed path failure).symbols
      (Analysis.failed path failure).relationships :=
  .nil path

end Lists

/-! ### By the text -/

namespace Source

variable {path : String} {w : Walk}

private theorem Walk.addSymbol_lieIn (h : LieIn path w.symbols w.relationships) {s : Symbol}
    (hs : s.filePath = path) :
    LieIn path (w.addSymbol s).symbols (w.addSymbol s).relationships := by
  have hnew : LieIn path [s] [] := ⟨by simpa using hs, by simp⟩
  simpa only [Walk.addSymbol, List.append_nil] using h.append hnew

private theorem Walk.addRelationships_lieIn (h : LieIn path w.symbols w.relationships)
    {rs : List Relationship} (hrs : ∀ r ∈ rs, r.sourceFile = path) :
    LieIn path (w.addRelationships rs).symbols (w.addRelationships rs).relationships := by
  have hnew : LieIn path [] rs := ⟨by simp, hrs⟩
  simpa only [Walk.addRelationships, List.append_nil] using h.append hnew

private theorem functionSymbol_filePath (path : String) (inClass : Option String) (name : String)
    (n : Node) : (functionSymbol path inClass name n).filePath = path :=
  rfl

private theorem classSymbol_filePath (path name : String) (n : Node) :
    (classSymbol path name n).filePath = path :=
  rfl

private theorem baseRelationships_sourceFile (path name : String) (n : Node) :
    ∀ r ∈ baseRelationships path name n, r.sourceFile = path := by
  intro r member
  obtain ⟨base, -, rfl⟩ := List.mem_map.mp member
  rfl

private theorem callRelationship?_sourceFile (path source : String) (n : Node) :
    ∀ r ∈ (callRelationship? path source n).toList, r.sourceFile = path := by
  intro r member
  obtain ⟨target, -, rfl⟩ := Option.map_eq_some_iff.mp (Option.mem_toList.mp member)
  rfl

mutual
/-- A visit adds what lies in the file to what it has found before. -/
theorem Walk.visit_lieIn (w : Walk) (h : LieIn path w.symbols w.relationships) :
    ∀ n : Node, LieIn path (w.visit path n).symbols (w.visit path n).relationships
  | .mk role form line endLine parts => by
      unfold Walk.visit
      simp only
      split
      · rename_i names
        refine visitAll_lieIn _ ?_ parts
        refine Walk.addRelationships_lieIn (w := w.addImports names) h ?_
        simp [importRelationship]
      · rename_i source names
        split
        · exact visitAll_lieIn w h parts
        · refine visitAll_lieIn _ ?_ parts
          refine Walk.addRelationships_lieIn (w := w.addImports [source]) h ?_
          simp [importRelationship]
      · rename_i name _
        refine visitAll_lieIn _ ?_ parts
        exact Walk.addSymbol_lieIn h (functionSymbol_filePath path w.inClass name _)
      · rename_i name
        refine visitAll_lieIn _ ?_ parts
        let n : Node := .mk role (.classDef name) line endLine parts
        have hclass := Walk.addSymbol_lieIn h (classSymbol_filePath path name n)
        exact Walk.addRelationships_lieIn hclass (baseRelationships_sourceFile path name n)
      · split
        · exact visitAll_lieIn w h parts
        · exact visitAll_lieIn _ (Walk.addRelationships_lieIn h
            (callRelationship?_sourceFile path _ _)) parts
      · exact visitAll_lieIn w h parts

private theorem Walk.visitAll_lieIn (w : Walk) (h : LieIn path w.symbols w.relationships) :
    ∀ ns : List Node, LieIn path (w.visitAll path ns).symbols (w.visitAll path ns).relationships
  | [] => h
  | n :: others => visitAll_lieIn (w.visit path n) (visit_lieIn w h n) others
end

theorem analyze_lieIn (path content : String) :
    LieIn path (analyze path content).symbols (analyze path content).relationships := by
  unfold analyze
  split
  · exact Analysis.failed_lieIn path _
  · split
    · exact Analysis.failed_lieIn path _
    · exact Walk.visit_lieIn {} (.nil path) _

end Source

/-! ### By a concrete tree -/

namespace Concrete

/-- A computation that may fail gives nothing but results with a property. -/
def Yields {ε α : Type} (P : α → Prop) (x : Except ε α) : Prop :=
  ∀ a, x = .ok a → P a

section Yields

variable {ε α β : Type} {P : β → Prop}

theorem Yields.pure {b : β} (h : P b) : Yields P (Pure.pure b : Except ε β) := by
  intro a heq
  cases heq
  exact h

theorem Yields.bind {Q : α → Prop} {x : Except ε α} {f : α → Except ε β} (hx : Yields Q x)
    (h : ∀ a, Q a → Yields P (f a)) : Yields P (x >>= f) := by
  intro b heq
  cases x with
  | error e => cases heq
  | ok a => exact h a (hx a rfl) b heq

/-- Nothing has to be known of the first of two computations. -/
theorem Yields.after {x : Except ε α} {f : α → Except ε β} (h : ∀ a, Yields P (f a)) :
    Yields P (x >>= f) :=
  .bind (fun _ _ => trivial) fun a (_ : True) => h a

end Yields

def Contribution (path : String) (own : Found × Scope) : Prop :=
  LieIn path own.1.symbols own.1.relationships

section Walk

variable {path : String} {rule : NodeRule}

mutual
/-- A walk finds what lies in the file if each node contributes only that. -/
private theorem walk_lieIn (hrule : ∀ scope t, Yields (Contribution path) (rule scope t))
    (scope : Scope) :
    ∀ t : Tree, Yields (fun found => LieIn path found.symbols found.relationships)
      (walk rule scope t)
  | .node kind start stop field children => by
      intro found heq
      unfold walk at heq
      split at heq
      · cases heq
      · rename_i own inner hown
        have hfirst := hrule _ _ _ hown
        split at heq
        · cases heq
        · rename_i below hbelow
          cases heq
          exact hfirst.append (walkAll_lieIn hrule inner children below hbelow)

private theorem walkAll_lieIn (hrule : ∀ scope t, Yields (Contribution path) (rule scope t))
    (scope : Scope) :
    ∀ ts : List Tree, Yields (fun found => LieIn path found.symbols found.relationships)
      (walkAll rule scope ts)
  | [] => by
      intro found heq
      cases heq
      exact .nil path
  | t :: others => by
      intro found heq
      unfold walkAll at heq
      split at heq
      · cases heq
      · rename_i first hfirst
        split at heq
        · cases heq
        · rename_i rest hrest
          cases heq
          exact (walk_lieIn hrule scope t first hfirst).append
            (walkAll_lieIn hrule scope others rest hrest)
end

end Walk

namespace Extractor

variable {bytes : List UInt8} {path : String}

private theorem importOf_lieIn (t : Tree) (target : String) :
    LieIn path (importOf bytes path t target).symbols
      (importOf bytes path t target).relationships :=
  ⟨by simp [importOf], by simp [importOf, importRelationship]⟩

private theorem foldl_importOf_lieIn (t : Tree) (names : List String) (found : Found)
    (h : LieIn path found.symbols found.relationships) :
    let after := names.foldl (fun found name => found ++ importOf bytes path t name) found
    LieIn path after.symbols after.relationships := by
  induction names generalizing found with
  | nil => exact h
  | cons name rest ih => exact ih _ (h.append (importOf_lieIn t name))

private theorem callOf_lieIn (memberKind memberField : String) (scope : Scope) (t : Tree) :
    Yields (fun found => LieIn path found.symbols found.relationships)
      (callOf bytes path memberKind memberField scope t) := by
  unfold callOf
  split
  · refine .after fun callee => ?_
    split
    · exact .pure ⟨by simp, by simp [callRelationship]⟩
    · exact .pure (.nil path)
  · exact .pure (.nil path)

private theorem pythonFunction_contribution (scope : Scope) (t : Tree) (name : String) :
    Yields (Contribution path) (pythonFunction bytes path scope t name) := by
  refine .after fun signature => .after fun doc => .pure ⟨?_, ?_⟩
  · simp [definition]
  · simp

private theorem pythonClass_contribution (scope : Scope) (t : Tree) (name : String) :
    Yields (Contribution path) (pythonClass bytes path scope t name) := by
  have hfound (doc : Option Text.CodeText) (bases : List String) : Contribution path
      (({ symbols := [{ definition bytes path name .classDef t with docText := doc }]
          relationships := bases.map (inheritance path name (t.firstLine bytes)) } : Found),
        { scope with inClass := some name }) :=
    ⟨by simp [definition], by simp [inheritance]⟩
  refine .after fun doc => ?_
  simp only
  split
  · exact .after fun bases => .pure (hfound doc bases)
  · exact .after fun bases => .pure (hfound doc bases)

private theorem pythonRule_contribution (scope : Scope) (t : Tree) :
    Yields (Contribution path) (pythonRule bytes path scope t) := by
  have hnothing : Yields (Contribution path)
      (Pure.pure (({} : Found), scope) : Except AnalysisFailure _) := .pure (.nil path)
  unfold pythonRule
  split
  · refine .after fun name => ?_
    split
    · exact pythonFunction_contribution scope t _
    · exact hnothing
  · refine .after fun name => ?_
    split
    · exact pythonClass_contribution scope t _
    · exact hnothing
  · exact .bind (callOf_lieIn _ _ scope t) fun found hfound => .pure hfound
  · exact .after fun names => .pure (foldl_importOf_lieIn t names {} (.nil path))
  · refine .after fun name => ?_
    split
    · exact .pure (importOf_lieIn t _)
    · exact hnothing
  · exact hnothing

private theorem javascriptRule_contribution (scope : Scope) (t : Tree) :
    Yields (Contribution path) (javascriptRule bytes path scope t) := by
  have hnothing : Yields (Contribution path)
      (Pure.pure (({} : Found), scope) : Except AnalysisFailure _) := .pure (.nil path)
  unfold javascriptRule
  split
  · refine .after fun name => ?_
    split
    · exact .after fun signature => .pure ⟨by simp [definition], by simp⟩
    · exact hnothing
  · exact .after fun names => .pure ⟨by simp [definition], by simp⟩
  · refine .after fun name => ?_
    split
    · exact .pure ⟨by simp [definition], by simp⟩
    · exact hnothing
  · split
    · exact hnothing
    · refine .after fun name => ?_
      split
      · exact .pure ⟨by simp [definition], by simp⟩
      · exact hnothing
  · exact .bind (callOf_lieIn _ _ scope t) fun found hfound => .pure hfound
  · refine .after fun source => ?_
    split
    · exact .pure (importOf_lieIn t _)
    · exact hnothing
  · exact hnothing

private theorem rule_contribution (e : Extractor) (scope : Scope) (t : Tree) :
    Yields (Contribution path) (e.rule bytes path scope t) := by
  cases e with
  | python => exact pythonRule_contribution scope t
  | javascript => exact javascriptRule_contribution scope t

private theorem extract_lieIn (e : Extractor) (path content : String) (root : Tree) :
    Yields (fun analysis => LieIn path analysis.symbols analysis.relationships)
      (e.extract path content root) := by
  intro analysis heq
  unfold extract at heq
  cases hwalk : walk (e.rule (Text.Utf8.encode content.toList) path) {} root with
  | error failure =>
      rw [hwalk] at heq
      cases heq
  | ok found =>
      rw [hwalk] at heq
      cases heq
      exact walk_lieIn e.rule_contribution {} root found hwalk

end Extractor

theorem analyze_lieIn (path content : String) (parsed : Except String Tree) :
    LieIn path (analyze path content parsed).symbols
      (analyze path content parsed).relationships := by
  unfold analyze
  split
  · exact Analysis.failed_lieIn path _
  · split
    · exact Analysis.failed_lieIn path _
    · split
      · exact Analysis.failed_lieIn path _
      · rename_i extractor _
        split
        · rename_i analysis hextract
          exact extractor.extract_lieIn path content _ analysis hextract
        · exact Analysis.failed_lieIn path _

end Concrete

end CodeIndex
