import CodeIndex.Proofs.Encoding
import CodeIndex.Proofs.Extraction
import CodeIndex.Proofs.Script

/-!
The two ways to list the symbols of a script.

The analysis of a script cuts names from the characters of the text and lists every method that has
a name. The extraction decodes the bytes of a node, lists methods inside of classes only, and takes
variables that hold functions for symbols as well. In an ASCII text both read the same names, and
both pass the innermost class around a node down the tree. So where the other two differences do not
show, node by node, the whole lists agree.
-/

namespace CodeIndex

def Symbol.sketch (s : Symbol) : String × SymbolKind × Nat × Nat × Option String :=
  (s.name, s.kind, s.lineStart, s.lineEnd, s.parent)

namespace Concrete.Extractor

open CodeIndex.Text

/-! ### Scopes of the extraction -/

section Scopes

variable {bytes : List UInt8} {path : String}

def scriptNaming (bytes : List UInt8) : Naming where
  classes := ["class_declaration"]
  functions := ["function_declaration", "method_definition"]
  textOf := text? bytes

/-- The scope below a node of a script. A method makes one only inside of a class whose name is not
empty. -/
def enterScript (bytes : List UInt8) (scope : Scope) (t : Tree) : Scope :=
  if t.kind = "method_definition" ∧ nonEmpty? scope.inClass = none then scope
  else (scriptNaming bytes).enter scope t

private theorem enterScript_of_other {scope : Scope} {t : Tree}
    (hclass : t.kind ≠ "class_declaration")
    (hfunction : t.kind ≠ "function_declaration") (hmethod : t.kind ≠ "method_definition") :
    enterScript bytes scope t = scope := by
  rw [enterScript, if_neg fun h => hmethod h.1]
  exact Naming.enter_of_other (by simp [scriptNaming, hclass])
    (by simp [scriptNaming, hfunction, hmethod])

private theorem enterScript_of_unnamed {scope : Scope} {t : Tree}
    (hname : (t.child? "name").bind (text? bytes) = none) : enterScript bytes scope t = scope := by
  unfold enterScript
  split
  · rfl
  · exact Naming.enter_of_unnamed hname

/-- A function or method with a name that makes a scope. -/
theorem enterScript_of_function {scope : Scope} {t : Tree} {name : String}
    (hkind : t.kind = "function_declaration" ∨
      t.kind = "method_definition" ∧ nonEmpty? scope.inClass ≠ none)
    (hname : (t.child? "name").bind (text? bytes) = some name) :
    enterScript bytes scope t = { scope with inFunction := some name } := by
  have hmakes : ¬(t.kind = "method_definition" ∧ nonEmpty? scope.inClass = none) := by
    rintro ⟨hmethod, hnone⟩
    rcases hkind with hfunction | ⟨-, hclass⟩
    · simp [hfunction] at hmethod
    · exact hclass hnone
  have hfunction : t.kind ∈ ["function_declaration", "method_definition"] := by
    rcases hkind with hkind | ⟨hkind, -⟩ <;> simp [hkind]
  have hclass : t.kind ∉ ["class_declaration"] := by
    rcases hkind with hkind | ⟨hkind, -⟩ <;> simp [hkind]
  rw [enterScript, if_neg hmakes]
  exact Naming.enter_of_function hclass hfunction hname

private theorem javascriptRule_scope (scope : Scope) (t : Tree) :
    Yields (fun result => result.2 = enterScript bytes scope t)
      (javascriptRule bytes path scope t) := by
  unfold javascriptRule
  split
  · rename_i hkind
    refine .bind (fieldText_yields t "name") fun name? hname => ?_
    split
    · exact .after fun signature => .pure (enterScript_of_function (.inl hkind) hname).symm
    · exact .pure (enterScript_of_unnamed hname).symm
  · rename_i hkind
    refine .after fun names => .pure (enterScript_of_other ?_ ?_ ?_).symm <;> simp [hkind]
  · rename_i hkind
    refine .bind (fieldText_yields t "name") fun name? hname => ?_
    split
    · refine .pure ?_
      rw [enterScript, if_neg (by simp [hkind])]
      exact (Naming.enter_of_class (by simp [scriptNaming, hkind])
        (by simp [scriptNaming, hkind]) hname).symm
    · exact .pure (enterScript_of_unnamed hname).symm
  · rename_i hkind
    cases hclass : nonEmpty? scope.inClass with
    | none => exact .pure (if_pos ⟨hkind, hclass⟩).symm
    | some parent =>
        refine .bind (fieldText_yields t "name") fun name? hname => ?_
        split
        · exact .pure (enterScript_of_function (.inr ⟨hkind, by simp [hclass]⟩) hname).symm
        · exact .pure (enterScript_of_unnamed hname).symm
  · rename_i hkind
    refine .after fun found => .pure (enterScript_of_other ?_ ?_ ?_).symm <;> simp [hkind]
  · rename_i hkind
    have hself : scope = enterScript bytes scope t := by
      refine (enterScript_of_other ?_ ?_ ?_).symm <;> simp [hkind]
    refine .after fun source? => ?_
    split
    · exact .pure hself
    · exact .pure hself
  · rename_i hfunction _ hclass hmethod _ _
    exact .pure (enterScript_of_other hclass hfunction hmethod).symm

def scriptScope (bytes : List UInt8) (above : List Tree) : Scope :=
  above.foldr (fun t scope => enterScript bytes scope t) {}

theorem javascriptRule_follows : Follows (javascriptRule bytes path) (scriptScope bytes) :=
  fun above t => javascriptRule_scope (scriptScope bytes above) t

private theorem inClass_enterScript (scope : Scope) (t : Tree) :
    (enterScript bytes scope t).inClass =
      ((scriptNaming bytes).className? t).or scope.inClass := by
  unfold enterScript
  split
  · rename_i h
    have hnone : (scriptNaming bytes).className? t = none :=
      if_neg (by simp [scriptNaming, h.1])
    rw [hnone, Option.none_or]
  · rfl

/-- The class of a scope is the innermost one with a name. -/
theorem inClass_scriptScope (above : List Tree) :
    (scriptScope bytes above).inClass = above.findSome? (scriptNaming bytes).className? := by
  induction above with
  | nil => rfl
  | cons t above ih =>
      have hcons : (scriptScope bytes (t :: above)).inClass =
          ((scriptNaming bytes).className? t).or (scriptScope bytes above).inClass :=
        inClass_enterScript (scriptScope bytes above) t
      rw [hcons, ih, List.findSome?_cons]
      cases (scriptNaming bytes).className? t <;> rfl

end Scopes

/-! ### ASCII texts -/

section Ascii

variable {content : List Char} {path : String} {scope : Scope} {t : Tree}

private theorem text_of_ascii (h : Utf8.IsAscii content) (t : Tree) :
    text (Utf8.encode content) t = .ok (Script.text content t) := by
  have hbytes : t.bytesIn (Utf8.encode content) = (t.charsIn content).map Utf8.asciiByte := by
    rw [h.encode_eq, Tree.bytesIn, Tree.charsIn, List.map_drop, List.map_take]
  have hread : Utf8.decode ((t.charsIn content).map Utf8.asciiByte) = .ok (t.charsIn content) :=
    (h.slice t.start t.stop).decode_map
  rw [text, hbytes, hread]
  rfl

private theorem fieldText_of_ascii (h : Utf8.IsAscii content) (t : Tree) (name : String) :
    Yields (fun s? => (t.child? name).map (Script.text content) = s?)
      (fieldText (Utf8.encode content) t name) := by
  unfold fieldText
  cases t.child? name with
  | none => exact .pure rfl
  | some c =>
      simp only [text_of_ascii h]
      exact .pure rfl

private theorem scriptNaming_of_ascii (h : Utf8.IsAscii content) :
    scriptNaming (Utf8.encode content) = Script.naming content := by
  have htext : text? (Utf8.encode content) = fun t => some (Script.text content t) := by
    funext t
    rw [text?, text_of_ascii h]
    rfl
  rw [scriptNaming, htext]
  rfl

def DeclaresFunction (d : Tree) : Prop :=
  ∃ name value, d.child? "name" = some name ∧ d.child? "value" = some value ∧
    (value.kind = "arrow_function" ∨ value.kind = "function")

private theorem functionVariable?_eq_none {d : Tree} (h : ¬DeclaresFunction d) :
    functionVariable? d = none := by
  unfold functionVariable?
  split
  · rename_i name value hname hvalue
    refine if_neg fun hfunction => h ⟨name, value, hname, hvalue, ?_⟩
    simpa [isFunctionValue] using hfunction
  · rfl

private theorem callOf_symbols {bytes : List UInt8} (memberKind memberField : String) :
    Yields (fun found => found.symbols = [])
      (callOf bytes path memberKind memberField scope t) := by
  unfold callOf
  split
  · refine .after fun target => ?_
    split <;> exact .pure rfl
  · exact .pure rfl

/-- What a node shows of the symbol that the analysis of the script lists for it. -/
def Sketches (content : List Char) (path : String) (scope : Scope) (t : Tree)
    (result : Found × Scope) : Prop :=
  result.1.symbols.map Symbol.sketch =
    ((Script.definitionIn? content (Utf8.encode content) path scope.inClass t).map
      Symbol.sketch).toList

private theorem sketches_nothing {own : Found} {inner : Scope} (hown : own.symbols = [])
    (hnone : Script.definitionIn? content (Utf8.encode content) path scope.inClass t = none) :
    Sketches content path scope t (own, inner) := by
  rw [Sketches, hown, hnone]
  rfl

/-- Where no variable holds a function and a method with a name stands in a class whose name is not
empty, a node shows the same symbol in both ways. -/
private theorem javascriptRule_sketches (hascii : Utf8.IsAscii content)
    (hvariables : t.kind = "lexical_declaration" →
      ∀ d ∈ t.childrenOf "variable_declarator", ¬DeclaresFunction d)
    (hmethod : t.kind = "method_definition" → (t.child? "name").isSome →
      (nonEmpty? scope.inClass).isSome) :
    Yields (Sketches content path scope t)
      (javascriptRule (Utf8.encode content) path scope t) := by
  unfold javascriptRule
  split
  · rename_i hkind
    refine .bind (fieldText_of_ascii hascii t "name") fun name? hname => ?_
    split
    · obtain ⟨nameNode, hchild, rfl⟩ := Option.map_eq_some_iff.mp hname
      refine .after fun signature => .pure ?_
      simp [Sketches, Script.definitionIn?, hchild, hkind, Symbol.sketch, definition]
    · exact .pure (sketches_nothing rfl (Script.definitionIn?_of_unnamed (by simpa using hname) _))
  · rename_i hkind
    have hnone : (t.childrenOf "variable_declarator").filterMap functionVariable? = [] :=
      List.filterMap_eq_nil_iff.mpr fun d member =>
        functionVariable?_eq_none (hvariables hkind d member)
    rw [hnone]
    exact .pure (sketches_nothing rfl (Script.definitionIn?_of_other (by simp [hkind]) _))
  · rename_i hkind
    refine .bind (fieldText_of_ascii hascii t "name") fun name? hname => ?_
    split
    · obtain ⟨nameNode, hchild, rfl⟩ := Option.map_eq_some_iff.mp hname
      refine .pure ?_
      simp [Sketches, Script.definitionIn?, hchild, hkind, Symbol.sketch, definition]
    · exact .pure (sketches_nothing rfl (Script.definitionIn?_of_unnamed (by simpa using hname) _))
  · rename_i hkind
    cases hclass : nonEmpty? scope.inClass with
    | none =>
        have hunnamed : t.child? "name" = none := by
          cases hchild : t.child? "name" with
          | none => rfl
          | some nameNode => simpa [hchild, hclass] using hmethod hkind
        exact .pure (sketches_nothing rfl (Script.definitionIn?_of_unnamed hunnamed _))
    | some parent =>
        refine .bind (fieldText_of_ascii hascii t "name") fun name? hname => ?_
        split
        · obtain ⟨nameNode, hchild, rfl⟩ := Option.map_eq_some_iff.mp hname
          refine .pure ?_
          have hparent : scope.inClass = some parent := eq_some_of_nonEmpty? hclass
          simp [Sketches, Script.definitionIn?, hchild, hkind, hparent, Symbol.sketch, definition]
        · refine .pure (sketches_nothing rfl ?_)
          exact Script.definitionIn?_of_unnamed (by simpa using hname) _
  · rename_i hkind
    refine .bind (callOf_symbols _ _) fun found hfound => .pure ?_
    exact sketches_nothing hfound (Script.definitionIn?_of_other (by simp [hkind]) _)
  · rename_i hkind
    refine .after fun source? => ?_
    split
    · exact .pure (sketches_nothing rfl (Script.definitionIn?_of_other (by simp [hkind]) _))
    · exact .pure (sketches_nothing rfl (Script.definitionIn?_of_other (by simp [hkind]) _))
  · rename_i hfunction _ hclass hmethod _ _
    refine .pure (sketches_nothing rfl (Script.definitionIn?_of_other ?_ _))
    simp only [List.mem_cons, List.not_mem_nil, or_false, not_or]
    exact ⟨hclass, hfunction, hmethod⟩

end Ascii

/-! ### The whole lists -/

def DeclaresNoFunctions (root : Tree) : Prop :=
  ∀ o ∈ preorder root, o.node.kind = "lexical_declaration" →
    ∀ d ∈ o.node.childrenOf "variable_declarator", ¬DeclaresFunction d

/-- Every method with a name stands in a class with a name, the innermost of which has one that is
not empty. -/
def MethodsInClasses (content : List Char) (root : Tree) : Prop :=
  ∀ o ∈ preorder root, o.node.kind = "method_definition" → (o.node.child? "name").isSome →
    ∃ name, (Script.naming content).enclosingClass? o = some name ∧ name ≠ ""

private theorem walk_sketches {content : List Char} {path : String} {root : Tree}
    (hascii : Utf8.IsAscii content) (hvariables : DeclaresNoFunctions root)
    (hmethods : MethodsInClasses content root) :
    let bytes := Utf8.encode content
    Yields (fun found => found.symbols.map Symbol.sketch =
        ((preorder root).filterMap (Script.definition? content bytes path)).map Symbol.sketch)
      (walk (javascriptRule bytes path) {} root) := by
  intro bytes
  have hclass (o : Occurrence Tree) : (scriptScope bytes o.above).inClass =
      (Script.naming content).enclosingClass? o := by
    rw [inClass_scriptScope, scriptNaming_of_ascii hascii]
    rfl
  have hwalk : walk (javascriptRule bytes path) {} root =
      gather (foundAt (javascriptRule bytes path) (scriptScope bytes)) (preorder root) :=
    walk_eq_gather javascriptRule_follows root []
  rw [hwalk, List.map_filterMap]
  refine gather_view (fun found => found.symbols.map Symbol.sketch) rfl
    (fun _ _ => List.map_append) fun o member => ?_
  refine .bind (javascriptRule_sketches hascii (hvariables o member) ?_) fun result h => .pure ?_
  · intro hkind hnamed
    obtain ⟨name, hname, hne⟩ := hmethods o member hkind hnamed
    rw [hclass, hname]
    simp [nonEmpty?, hne]
  · rw [Sketches, hclass] at h
    exact h

private theorem symbols_of_analyze {path content : String} {root : Tree}
    (h : (Script.analyze path content (.ok root)).failure = none) :
    (Script.analyze path content (.ok root)).symbols = (preorder root).filterMap
      (Script.definition? content.toList (Utf8.encode content.toList) path) := by
  unfold Script.analyze at h ⊢
  simp only at h ⊢
  cases hwalk : walk (Script.rule content.toList (Utf8.encode content.toList) path) {} root with
  | error failure => simp [hwalk, Analysis.failed] at h
  | ok found => exact Script.walk_symbols _ _ path root found hwalk

/-- Where a script is in ASCII, no variable of it holds a function and its methods stand in classes,
the analysis of the script and the extraction from it list the same symbols, if both succeed: as
many, and one by one with the same name, kind, lines and parent. -/
theorem symbol_lists_agree (path content : String) (root : Tree) (extracted : Analysis)
    (hascii : Utf8.IsAscii content.toList) (hvariables : DeclaresNoFunctions root)
    (hmethods : MethodsInClasses content.toList root)
    (hscript : (Script.analyze path content (.ok root)).failure = none)
    (hextract : extract .javascript path content root = .ok extracted) :
    (Script.analyze path content (.ok root)).symbols.map Symbol.sketch =
      extracted.symbols.map Symbol.sketch := by
  have hlisted : Yields (fun analysis => analysis.symbols.map Symbol.sketch =
      ((preorder root).filterMap (Script.definition? content.toList
        (Utf8.encode content.toList) path)).map Symbol.sketch)
      (extract .javascript path content root) :=
    .bind (walk_sketches hascii hvariables hmethods) fun _ h => .pure h
  rw [symbols_of_analyze hscript, hlisted extracted hextract]

/-- A class `C` whose method `m` holds a function `f`, and a variable `v` that is a number. -/
def classAndVariable : Tree :=
  .node "program" 0 5 none
    [.node "class_declaration" 0 3 none
      [.node "identifier" 0 1 (some "name") [],
        .node "method_definition" 1 3 none
          [.node "property_identifier" 1 2 (some "name") [],
            .node "function_declaration" 2 3 none [.node "identifier" 2 3 (some "name") []]]],
      .node "lexical_declaration" 3 5 none
        [.node "variable_declarator" 3 5 none
          [.node "identifier" 3 4 (some "name") [], .node "number" 4 5 (some "value") []]]]

theorem symbol_lists_of_class_agree :
    Utf8.IsAscii "Cmfv1".toList ∧ DeclaresNoFunctions classAndVariable ∧
      MethodsInClasses "Cmfv1".toList classAndVariable ∧
      ∃ extracted, extract .javascript "a.js" "Cmfv1" classAndVariable = .ok extracted ∧
        extracted.symbols.map Symbol.name = ["C", "m", "f"] ∧
        (Script.analyze "a.js" "Cmfv1" (.ok classAndVariable)).symbols.map Symbol.sketch =
          extracted.symbols.map Symbol.sketch := by
  have hascii : Utf8.IsAscii "Cmfv1".toList := by
    simp [Utf8.IsAscii]
  have hvariables : DeclaresNoFunctions classAndVariable := by
    intro o member hkind d hd
    simp [classAndVariable, preorder, preorderBelow_eq, Branching.parts, Tree.children] at member
    rcases member with rfl | rfl | rfl | rfl | rfl | rfl | rfl | rfl | rfl | rfl | rfl <;>
      simp [Tree.kind] at hkind
    simp [Tree.childrenOf, Tree.children, Tree.kind] at hd
    simp [hd, DeclaresFunction, Tree.child?, Tree.children, Tree.field, Tree.kind]
  have hmethods : MethodsInClasses "Cmfv1".toList classAndVariable := by
    intro o member hkind hnamed
    simp [classAndVariable, preorder, preorderBelow_eq, Branching.parts, Tree.children] at member
    rcases member with rfl | rfl | rfl | rfl | rfl | rfl | rfl | rfl | rfl | rfl | rfl <;>
      simp [Tree.kind] at hkind
    exact ⟨"C", by decide +kernel, by decide⟩
  have hshown : (extract .javascript "a.js" "Cmfv1" classAndVariable).toOption.map
      (fun a => a.symbols.map Symbol.name) = some ["C", "m", "f"] := by
    decide +kernel
  cases hextract : extract .javascript "a.js" "Cmfv1" classAndVariable with
  | error failure =>
      rw [hextract] at hshown
      cases hshown
  | ok extracted =>
      rw [hextract] at hshown
      exact ⟨hascii, hvariables, hmethods, extracted, rfl, Option.some.inj hshown,
        symbol_lists_agree "a.js" "Cmfv1" classAndVariable extracted hascii hvariables hmethods
          (by decide +kernel) hextract⟩

end Concrete.Extractor

end CodeIndex
