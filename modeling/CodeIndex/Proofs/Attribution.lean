import CodeIndex.Proofs.Agreement

/-!
The functions that the calls of a script are attributed to.

Three kinds of functions are reported from a script: function declarations, methods within a class,
and functions that are the value of a declared variable. A call is meant to be attributed to the
innermost of them around it. The walk passes the names of the first two kinds down the tree, but not
those of variables. So a call in the function of a variable goes to the function declared around the
variable, and is lost where there is none.
-/

namespace CodeIndex.Concrete

/-- The innermost node around a place with a property, which gives it a value and may depend on the
nodes around it. -/
inductive Innermost {β : Type} (P : Tree → List Tree → β → Prop) : List Tree → β → Prop where
  | here {t : Tree} {around : List Tree} {b : β} (h : P t around b) : Innermost P (t :: around) b
  | further {t : Tree} {around : List Tree} {b : β} (hnone : ∀ b, ¬P t around b)
      (h : Innermost P around b) : Innermost P (t :: around) b

private theorem Innermost.exists_mem {β : Type} {P : Tree → List Tree → β → Prop}
    {above : List Tree} {b : β} (h : Innermost P above b) :
    ∃ t ∈ above, ∃ around, P t around b := by
  induction h with
  | here h => exact ⟨_, List.mem_cons_self, _, h⟩
  | further _ _ ih =>
      obtain ⟨t, member, h⟩ := ih
      exact ⟨t, List.mem_cons_of_mem _ member, h⟩

namespace Extractor

open CodeIndex.Text

/-! ### Functions of a script -/

def nameIn? (bytes : List UInt8) (t : Tree) : Option String :=
  (t.child? "name").bind (text? bytes)

/-- A node with a name that declares a function: a function declaration, or a method that stands in
a class with a name. -/
def DeclaredAs (bytes : List UInt8) (t : Tree) (around : List Tree) (name : String) : Prop :=
  nameIn? bytes t = some name ∧
    (t.kind = "function_declaration" ∨ t.kind = "method_definition" ∧
      ∃ c ∈ around, c.kind = "class_declaration" ∧ (nameIn? bytes c).isSome)

/-- A function that is the value of a variable with a name, in a lexical declaration. -/
def HeldAs (bytes : List UInt8) (t : Tree) (around : List Tree) (name : String) : Prop :=
  (t.kind = "arrow_function" ∨ t.kind = "function") ∧
    ∃ declarator declaration outer, around = declarator :: declaration :: outer ∧
      declarator.kind = "variable_declarator" ∧ declarator.child? "value" = some t ∧
      nameIn? bytes declarator = some name ∧ declaration.kind = "lexical_declaration"

inductive Reporting where
  | declared
  | held
  deriving DecidableEq, Repr

def ReportedAs (bytes : List UInt8) (t : Tree) (around : List Tree) :
    Reporting × String → Prop
  | (.declared, name) => DeclaredAs bytes t around name
  | (.held, name) => HeldAs bytes t around name

def CallsName (bytes : List UInt8) (t : Tree) (target : String) : Prop :=
  t.kind = "call_expression" ∧ ∃ callee, t.child? "function" = some callee ∧
    callee.kind = "identifier" ∧ text? bytes callee = some target

def NamesNotEmpty (bytes : List UInt8) (root : Tree) : Prop :=
  ∀ o ∈ preorder root, nameIn? bytes o.node ≠ some "" ∧ ¬CallsName bytes o.node ""

section Scope

variable {bytes : List UInt8} {path : String} {scope : Scope} {t : Tree} {around above : List Tree}
  {name : String}

private theorem className?_eq_some_iff : (scriptNaming bytes).className? t = some name ↔
    t.kind = "class_declaration" ∧ nameIn? bytes t = some name := by
  unfold Naming.className?
  split
  · rename_i hkind
    rw [and_iff_right (by simpa [scriptNaming] using hkind)]
    rfl
  · rename_i hkind
    simp [scriptNaming] at hkind
    simp [hkind]

/-- The class of a scope has a name that is not empty exactly if there is a class around. -/
private theorem nonEmpty?_inClass_ne_none_iff (hnames : ∀ c ∈ around, nameIn? bytes c ≠ some "") :
    nonEmpty? (scriptScope bytes around).inClass ≠ none ↔
      ∃ c ∈ around, c.kind = "class_declaration" ∧ (nameIn? bytes c).isSome := by
  rw [inClass_scriptScope]
  cases hclass : around.findSome? (scriptNaming bytes).className? with
  | none =>
      rw [List.findSome?_eq_none_iff] at hclass
      refine ⟨fun h => absurd rfl h, ?_⟩
      rintro ⟨c, member, hkind, hnamed⟩
      obtain ⟨name, hname⟩ := Option.isSome_iff_exists.mp hnamed
      have hsome := className?_eq_some_iff.mpr ⟨hkind, hname⟩
      rw [hclass c member] at hsome
      cases hsome
  | some name =>
      obtain ⟨c, member, hc⟩ := List.exists_of_findSome?_eq_some hclass
      obtain ⟨hkind, hname⟩ := className?_eq_some_iff.mp hc
      have hne : name ≠ "" := fun heq => hnames c member (heq ▸ hname)
      refine iff_of_true (by simp [nonEmpty?, hne]) ⟨c, member, hkind, ?_⟩
      rw [hname, Option.isSome_some]

private theorem inFunction_of_declared (hnames : ∀ c ∈ around, nameIn? bytes c ≠ some "")
    (h : DeclaredAs bytes t around name) :
    (scriptScope bytes (t :: around)).inFunction = some name := by
  obtain ⟨hname, hkind⟩ := h
  rw [← nonEmpty?_inClass_ne_none_iff hnames] at hkind
  change (enterScript bytes (scriptScope bytes around) t).inFunction = some name
  rw [enterScript_of_function hkind hname]

private theorem inFunction_of_not_declared (hnames : ∀ c ∈ around, nameIn? bytes c ≠ some "")
    (h : ∀ name, ¬DeclaredAs bytes t around name) :
    (scriptScope bytes (t :: around)).inFunction = (scriptScope bytes around).inFunction := by
  change (enterScript bytes (scriptScope bytes around) t).inFunction = _
  unfold enterScript
  split
  · rfl
  · rename_i hmakes
    have hnone : (scriptNaming bytes).functionName? t = none := by
      unfold Naming.functionName?
      split
      · rename_i hkind
        cases hname : nameIn? bytes t with
        | none => exact hname
        | some name =>
            refine absurd ⟨hname, ?_⟩ (h name)
            rw [← nonEmpty?_inClass_ne_none_iff hnames]
            simp [scriptNaming] at hkind
            exact hkind.imp_right fun hmethod => ⟨hmethod, fun hclass => hmakes ⟨hmethod, hclass⟩⟩
      · rfl
    simp [Naming.enter, hnone]

/-- The function of a scope is the innermost one that is declared. -/
private theorem inFunction_scriptScope_iff (hnames : ∀ c ∈ above, nameIn? bytes c ≠ some "") :
    (scriptScope bytes above).inFunction = some name ↔ Innermost (DeclaredAs bytes) above name := by
  induction above with
  | nil =>
      constructor
      · intro h
        cases h
      · intro h
        cases h
  | cons t around ih =>
      obtain ⟨-, hnames⟩ := List.forall_mem_cons.mp hnames
      constructor
      · intro h
        by_cases hdeclared : ∃ n, DeclaredAs bytes t around n
        · obtain ⟨n, hn⟩ := hdeclared
          rw [inFunction_of_declared hnames hn] at h
          exact .here (Option.some.inj h ▸ hn)
        · have hnone (n : String) : ¬DeclaredAs bytes t around n := fun hn => hdeclared ⟨n, hn⟩
          rw [inFunction_of_not_declared hnames hnone] at h
          exact .further hnone ((ih hnames).mp h)
      · intro h
        cases h with
        | here h => exact inFunction_of_declared hnames h
        | further hnone h =>
            rw [inFunction_of_not_declared hnames hnone]
            exact (ih hnames).mpr h

/-- An innermost reported function that is declared is the innermost declared one. -/
private theorem innermost_declared_of_reported {reported : Reporting × String}
    (h : Innermost (ReportedAs bytes) above reported) (hdeclared : reported.1 = .declared) :
    Innermost (DeclaredAs bytes) above reported.2 := by
  obtain ⟨how, name⟩ := reported
  obtain rfl : how = .declared := hdeclared
  induction above with
  | nil => cases h
  | cons t around ih =>
      cases h with
      | here h => exact .here h
      | further hnone h => exact .further (fun n hn => hnone (.declared, n) hn) (ih h)

end Scope

/-! ### One node -/

def scriptCallee? (bytes : List UInt8) (t : Tree) : Option String :=
  (t.child? "function").bind fun callee =>
    (calleeText bytes "member_expression" "property" callee).toOption.join

def scriptCallIn? (bytes : List UInt8) (path : String) (inFunction : Option String) (t : Tree) :
    Option Relationship :=
  if t.kind = "call_expression" then
    (nonEmpty? inFunction).bind fun source => (nonEmpty? (scriptCallee? bytes t)).map
      (callRelationship path source (t.firstLine bytes))
  else none

def scriptCall? (bytes : List UInt8) (path : String) (o : Occurrence Tree) : Option Relationship :=
  scriptCallIn? bytes path (scriptScope bytes o.above).inFunction o.node

section Node

variable {bytes : List UInt8} {path : String} {scope : Scope} {t : Tree} {around : List Tree}
  {name : String}

private theorem scriptCallIn?_of_other (hkind : t.kind ≠ "call_expression")
    (inFunction : Option String) :
    scriptCallIn? bytes path inFunction t = none :=
  if_neg hkind

private theorem callOf_calls (hkind : t.kind = "call_expression") :
    Yields (fun own =>
        callsOf own.relationships = (scriptCallIn? bytes path scope.inFunction t).toList)
      (callOf bytes path "member_expression" "property" scope t) := by
  unfold callOf scriptCallIn? scriptCallee?
  rw [if_pos hkind]
  cases nonEmpty? scope.inFunction with
  | none => exact .pure rfl
  | some source =>
      cases t.child? "function" with
      | none => exact .pure rfl
      | some callee =>
          have hcallee : Yields (fun target? =>
              (calleeText bytes "member_expression" "property" callee).toOption.join = target?)
              (calleeText bytes "member_expression" "property" callee) := by
            intro target? h
            rw [h]
            rfl
          refine .bind hcallee fun target? htarget => ?_
          rw [Option.bind_some, Option.bind_some, htarget]
          cases nonEmpty? target? with
          | none => exact .pure rfl
          | some target => exact .pure rfl

private theorem javascriptRule_calls (scope : Scope) (t : Tree) :
    Yields (fun result =>
        callsOf result.1.relationships = (scriptCallIn? bytes path scope.inFunction t).toList)
      (javascriptRule bytes path scope t) := by
  have hnone (hkind : t.kind ≠ "call_expression") :
      [] = (scriptCallIn? bytes path scope.inFunction t).toList := by
    rw [scriptCallIn?_of_other hkind]
    rfl
  unfold javascriptRule
  split
  · rename_i hkind
    refine .after fun name? => ?_
    split
    · exact .after fun signature => .pure (hnone (by simp [hkind]))
    · exact .pure (hnone (by simp [hkind]))
  · rename_i hkind
    exact .after fun names => .pure (hnone (by simp [hkind]))
  · rename_i hkind
    refine .after fun name? => ?_
    split
    · exact .pure (hnone (by simp [hkind]))
    · exact .pure (hnone (by simp [hkind]))
  · rename_i hkind
    split
    · exact .pure (hnone (by simp [hkind]))
    · refine .after fun name? => ?_
      split
      · exact .pure (hnone (by simp [hkind]))
      · exact .pure (hnone (by simp [hkind]))
  · rename_i hkind
    exact .bind (callOf_calls hkind) fun own h => .pure h
  · rename_i hkind
    refine .after fun source? => ?_
    split
    · exact .pure (hnone (by simp [hkind]))
    · exact .pure (hnone (by simp [hkind]))
  · rename_i hcall _
    exact .pure (hnone hcall)

private theorem Legible.functionVariables (h : Legible bytes t) :
    ¬Fails (((t.childrenOf "variable_declarator").filterMap functionVariable?).mapM
      (Extractor.text bytes)) := by
  refine not_fails_mapM fun n member => ?_
  obtain ⟨d, hd, hname⟩ := List.mem_filterMap.mp member
  have hchild := h.child (List.mem_filter.mp hd).1
  unfold functionVariable? at hname
  split at hname
  · rename_i nameNode value hnode _
    split at hname
    · obtain rfl := Option.some.inj hname
      exact (hchild.child (Tree.mem_of_child? hnode)).text
    · cases hname
  · cases hname

private theorem Legible.javascriptRule (h : Legible bytes t) :
    ¬Fails (javascriptRule bytes path scope t) := by
  unfold Extractor.javascriptRule
  split
  · refine not_fails_bind (h.fieldText _) fun name? => ?_
    split
    · exact not_fails_bind (h.fieldText _) fun _ => not_fails_ok _
    · exact not_fails_ok _
  · exact not_fails_bind h.functionVariables fun _ => not_fails_ok _
  · refine not_fails_bind (h.fieldText _) fun name? => ?_
    split <;> exact not_fails_ok _
  · split
    · exact not_fails_ok _
    · refine not_fails_bind (h.fieldText _) fun name? => ?_
      split <;> exact not_fails_ok _
  · exact not_fails_bind (h.callOf _ _) fun _ => not_fails_ok _
  · refine not_fails_bind (h.fieldText _) fun source? => ?_
    split <;> exact not_fails_ok _
  · exact not_fails_ok _

private theorem text_eq_ok (h : text? bytes t = some name) : text bytes t = .ok name := by
  unfold text? at h
  cases htext : text bytes t with
  | error e =>
      rw [htext] at h
      cases h
  | ok s =>
      rw [htext] at h
      exact congrArg _ (Option.some.inj h)

private theorem mapM_yields_mem {ε α β : Type} {f : α → Except ε β} {items : List α} {a : α} {b : β}
    (member : a ∈ items) (h : f a = .ok b) :
    Yields (fun results => b ∈ results) (items.mapM f) := by
  induction items with
  | nil => cases member
  | cons first items ih =>
      rw [List.mapM_cons]
      rcases List.mem_cons.mp member with rfl | member
      · have hfirst : Yields (fun result => b = result) (f a) :=
          fun result hresult => Except.ok.inj (h.symm.trans hresult)
        refine .bind hfirst fun result heq => .after fun rest => .pure ?_
        exact heq ▸ List.mem_cons_self
      · refine .after fun result => .bind (ih member) fun rest hrest => .pure ?_
        exact List.mem_cons_of_mem _ hrest

def Reports (name : String) (symbols : List Symbol) : Prop :=
  ∃ s ∈ symbols, s.name = name ∧ (s.kind = .function ∨ s.kind = .method)

private theorem javascriptRule_declares (hnames : ∀ c ∈ around, nameIn? bytes c ≠ some "")
    (h : DeclaredAs bytes t around name) :
    Yields (fun result => Reports name result.1.symbols)
      (javascriptRule bytes path (scriptScope bytes around) t) := by
  obtain ⟨hname, hkind⟩ := h
  have hfield : Yields (fun name? => name? = some name) (fieldText bytes t "name") :=
    fun name? hread => (fieldText_yields t "name" name? hread).symm.trans hname
  rw [← nonEmpty?_inClass_ne_none_iff hnames] at hkind
  unfold javascriptRule
  rcases hkind with hkind | ⟨hkind, hclass⟩
  · simp only [hkind]
    refine .bind hfield fun name? hread => ?_
    subst hread
    exact .after fun signature => .pure ⟨_, List.mem_singleton_self _, rfl, .inl rfl⟩
  · simp only [hkind]
    split
    · rename_i hnone
      exact absurd hnone hclass
    · refine .bind hfield fun name? hread => ?_
      subst hread
      exact .pure ⟨_, List.mem_singleton_self _, rfl, .inr rfl⟩

private theorem javascriptRule_holds {declarator value : Tree}
    (hkind : t.kind = "lexical_declaration")
    (member : declarator ∈ t.children) (hdeclarator : declarator.kind = "variable_declarator")
    (hvalue : declarator.child? "value" = some value)
    (hfunction : value.kind = "arrow_function" ∨ value.kind = "function")
    (hname : nameIn? bytes declarator = some name) :
    Yields (fun result => Reports name result.1.symbols) (javascriptRule bytes path scope t) := by
  obtain ⟨nameNode, hnode, htext⟩ := Option.bind_eq_some_iff.mp hname
  have hheld : nameNode ∈ (t.childrenOf "variable_declarator").filterMap functionVariable? := by
    refine List.mem_filterMap.mpr ⟨declarator, List.mem_filter.mpr ⟨member, ?_⟩, ?_⟩
    · exact beq_iff_eq.mpr hdeclarator
    · simp [functionVariable?, hnode, hvalue, isFunctionValue, hfunction]
  unfold javascriptRule
  simp only [hkind]
  refine .bind (mapM_yields_mem hheld (text_eq_ok htext)) fun names hnames => .pure ?_
  exact ⟨_, List.mem_map_of_mem hnames, rfl, .inl rfl⟩

end Node

/-! ### The whole extraction -/

section Whole

variable {bytes : List UInt8} {path : String} {root : Tree} {o : Occurrence Tree}
  {name source target : String}

private theorem walk_script_eq_gather (bytes : List UInt8) (path : String) (root : Tree) :
    walk (javascriptRule bytes path) {} root =
      gather (foundAt (javascriptRule bytes path) (scriptScope bytes)) (preorder root) :=
  walk_eq_gather javascriptRule_follows root []

private theorem walk_script_not_fails (h : ∀ o ∈ preorder root, ¬Fails (text bytes o.node)) :
    ¬Fails (walk (javascriptRule bytes path) {} root) := by
  rw [walk_script_eq_gather, gather_fails_iff]
  rintro ⟨o, member, hfails⟩
  unfold foundAt at hfails
  rw [fails_map_iff] at hfails
  exact (legible_of_forall root [] h o member).javascriptRule hfails

private theorem walk_script_calls (bytes : List UInt8) (path : String) (root : Tree) :
    Yields (fun found =>
        callsOf found.relationships = (preorder root).filterMap (scriptCall? bytes path))
      (walk (javascriptRule bytes path) {} root) := by
  rw [walk_script_eq_gather]
  refine gather_view (fun found => callsOf found.relationships) rfl
    (fun _ _ => List.filter_append ..) fun o _ => ?_
  exact .bind (javascriptRule_calls _ o.node) fun _ h => .pure h

private theorem NamesNotEmpty.around (h : NamesNotEmpty bytes root) (member : o ∈ preorder root) :
    ∀ c ∈ o.above, nameIn? bytes c ≠ some "" := by
  intro c hc
  obtain ⟨outer, houter, rfl⟩ := exists_mem_preorder_of_mem_above member hc
  exact (h outer houter).1

/-- Every function of the three kinds is reported. -/
private theorem walk_script_reports (hnames : NamesNotEmpty bytes root) (member : o ∈ preorder root)
    {how : Reporting} (h : ReportedAs bytes o.node o.above (how, name)) :
    Yields (fun found => Reports name found.symbols)
      (walk (javascriptRule bytes path) {} root) := by
  have hkept {outer : Occurrence Tree} (houter : outer ∈ preorder root)
      (hrule : Yields (fun result => Reports name result.1.symbols)
        (javascriptRule bytes path (scriptScope bytes outer.above) outer.node)) :
      Yields (fun found => Reports name found.symbols)
        (walk (javascriptRule bytes path) {} root) := by
    intro found hfound
    rw [walk_script_eq_gather] at hfound
    obtain ⟨own, hown, hsymbols⟩ := gather_own hfound houter
    have hreports : Yields (fun own => Reports name own.symbols)
        (foundAt (javascriptRule bytes path) (scriptScope bytes) outer) :=
      .bind hrule fun _ h => .pure h
    obtain ⟨s, hs, hnamed⟩ := hreports own hown
    exact ⟨s, hsymbols s hs, hnamed⟩
  cases how with
  | declared => exact hkept member (javascriptRule_declares (hnames.around member) h)
  | held =>
      -- The variable is reported where its declaration is visited, two nodes further out.
      obtain ⟨hkind, declarator, declaration, outer, habove, hheld⟩ := h
      obtain ⟨hdeclarator, hvalue, hname, hdeclaration⟩ := hheld
      have hinner := (mem_preorder_of_above_eq member habove).1
      obtain ⟨houter, hpart⟩ := mem_preorder_of_above_eq hinner rfl
      exact hkept houter
        (javascriptRule_holds hdeclaration hpart hdeclarator hvalue hkind hname)

private theorem inFunction_ne_empty (hnames : ∀ c ∈ o.above, nameIn? bytes c ≠ some "") :
    (scriptScope bytes o.above).inFunction ≠ some "" := by
  intro hempty
  obtain ⟨t, member, around, hname, -⟩ :=
    ((inFunction_scriptScope_iff hnames).mp hempty).exists_mem
  exact hnames t member hname

/-- A call of an identifier is attributed to the function of its scope, or to none. -/
private theorem scriptCall?_eq (hnames : NamesNotEmpty bytes root) (member : o ∈ preorder root)
    (hcalls : CallsName bytes o.node target) :
    scriptCall? bytes path o = (scriptScope bytes o.above).inFunction.map fun source =>
      callRelationship path source (o.node.firstLine bytes) target := by
  have htarget : target ≠ "" := fun heq => (hnames o member).2 (heq ▸ hcalls)
  obtain ⟨hkind, callee, hcallee, hidentifier, htext⟩ := hcalls
  have hname : scriptCallee? bytes o.node = some target := by
    simp [scriptCallee?, hcallee, calleeText, hidentifier, text_eq_ok htext, Except.map,
      Except.toOption]
  rw [scriptCall?, scriptCallIn?, if_pos hkind, hname,
    nonEmpty?_eq_self (inFunction_ne_empty (hnames.around member))]
  cases (scriptScope bytes o.above).inFunction with
  | none => rfl
  | some source => simp [nonEmpty?, htarget]

private theorem scriptCall?_eq_some_iff (hnames : NamesNotEmpty bytes root)
    (member : o ∈ preorder root) (hcalls : CallsName bytes o.node target) :
    scriptCall? bytes path o =
        some (callRelationship path source (o.node.firstLine bytes) target) ↔
      Innermost (DeclaredAs bytes) o.above source := by
  rw [scriptCall?_eq hnames member hcalls, ← inFunction_scriptScope_iff (hnames.around member),
    Option.map_eq_some_iff]
  constructor
  · rintro ⟨other, hother, hsame⟩
    have heq : other = source := congrArg Relationship.source hsame
    rw [hother, heq]
  · exact fun hsource => ⟨source, hsource, rfl⟩

private theorem scriptCall?_eq_none_iff (hnames : NamesNotEmpty bytes root)
    (member : o ∈ preorder root) (hcalls : CallsName bytes o.node target) :
    scriptCall? bytes path o = none ↔ ∀ source, ¬Innermost (DeclaredAs bytes) o.above source := by
  rw [scriptCall?_eq hnames member hcalls, Option.map_eq_none_iff,
    Option.eq_none_iff_forall_ne_some]
  exact forall_congr' fun source =>
    not_congr (inFunction_scriptScope_iff (hnames.around member))

/-- A script whose texts are all UTF-8 is extracted without a failure, and its functions of the
three kinds are reported. Its calls are listed once each, in the order of the walk. Where names are
not empty, a call of an identifier in a reported function is attributed to the innermost of them
exactly if that one is declared, or has the name of the innermost one that is: it goes to whatever
function is declared around it, and is lost if none is. -/
theorem calls_reach_reported_function_iff (path content : String) (root : Tree)
    (hdecodes : ∀ o ∈ preorder root, ∃ chars,
      Utf8.decode (o.node.bytesIn (Utf8.encode content.toList)) = .ok chars)
    (hnames : NamesNotEmpty (Utf8.encode content.toList) root) :
    let bytes := Utf8.encode content.toList
    ∃ analysis, extract .javascript path content root = .ok analysis ∧
      callsOf analysis.relationships = (preorder root).filterMap (scriptCall? bytes path) ∧
      (∀ o ∈ preorder root, ∀ how name, ReportedAs bytes o.node o.above (how, name) →
        Reports name analysis.symbols) ∧
      ∀ o ∈ preorder root, ∀ target, CallsName bytes o.node target →
        ∀ how f, Innermost (ReportedAs bytes) o.above (how, f) →
          (scriptCall? bytes path o =
              some (callRelationship path f (o.node.firstLine bytes) target) ↔
            how = .declared ∨ Innermost (DeclaredAs bytes) o.above f) ∧
          (scriptCall? bytes path o = none ↔ ∀ g, ¬Innermost (DeclaredAs bytes) o.above g) := by
  intro bytes
  have hwalk : ¬Fails (walk (javascriptRule bytes path) {} root) :=
    walk_script_not_fails (texts_not_fail hdecodes)
  obtain ⟨found, hfound⟩ := not_fails_iff.mp hwalk
  refine ⟨found.analysis path, ?_, walk_script_calls bytes path root found hfound, ?_, ?_⟩
  · change (walk (javascriptRule bytes path) {} root).map (Found.analysis path) = _
    rw [hfound]
    rfl
  · intro o member how name hreported
    exact walk_script_reports hnames member hreported found hfound
  · intro o member target hcalls how f hinnermost
    refine ⟨?_, scriptCall?_eq_none_iff hnames member hcalls⟩
    rw [scriptCall?_eq_some_iff hnames member hcalls, iff_or_self]
    exact innermost_declared_of_reported hinnermost

end Whole

def callOfG : Tree :=
  .node "call_expression" 1 2 none [.node "identifier" 1 2 (some "function") []]

def callInDeclaration : Tree :=
  .node "function_declaration" 0 2 none [.node "identifier" 0 1 (some "name") [], callOfG]

theorem call_in_declaration_reaches_function :
    let bytes := Utf8.encode "fg".toList
    (∀ o ∈ preorder callInDeclaration, ∃ chars, Utf8.decode (o.node.bytesIn bytes) = .ok chars) ∧
      NamesNotEmpty bytes callInDeclaration ∧
      ∃ analysis, extract .javascript "a.js" "fg" callInDeclaration = .ok analysis ∧
        CallsName bytes callOfG "g" ∧
        Innermost (ReportedAs bytes) [callInDeclaration] (.declared, "f") ∧
        scriptCall? bytes "a.js" ⟨[callInDeclaration], callOfG⟩ =
          some (callRelationship "a.js" "f" 1 "g") := by
  intro bytes
  have hdecodes : ∀ o ∈ preorder callInDeclaration, ∃ chars,
      Utf8.decode (o.node.bytesIn bytes) = .ok chars := by
    intro o member
    simp [callInDeclaration, callOfG, preorder, preorderBelow_eq, Branching.parts,
      Tree.children] at member
    rcases member with rfl | rfl | rfl | rfl <;> exact ⟨_, rfl⟩
  have hnames : NamesNotEmpty bytes callInDeclaration := by
    intro o member
    have hnot (h : (o.node.child? "function").bind (text? bytes) ≠ some "") :
        ¬CallsName bytes o.node "" := by
      rintro ⟨-, callee, hcallee, -, htext⟩
      exact h (hcallee ▸ htext)
    simp [callInDeclaration, callOfG, preorder, preorderBelow_eq, Branching.parts,
      Tree.children] at member
    rcases member with rfl | rfl | rfl | rfl <;>
      exact ⟨by decide +kernel, hnot (by decide +kernel)⟩
  have hcalls : CallsName bytes callOfG "g" := ⟨rfl, _, rfl, rfl, by decide +kernel⟩
  have hreported : Innermost (ReportedAs bytes) [callInDeclaration] (.declared, "f") :=
    .here ⟨by decide +kernel, .inl rfl⟩
  have member : ⟨[callInDeclaration], callOfG⟩ ∈ preorder callInDeclaration := by
    simp [callInDeclaration, callOfG, preorder, preorderBelow_eq, Branching.parts, Tree.children]
  obtain ⟨analysis, hextract, -, -, hattributed⟩ :=
    calls_reach_reported_function_iff "a.js" "fg" callInDeclaration hdecodes hnames
  exact ⟨hdecodes, hnames, analysis, hextract, hcalls, hreported,
    (hattributed _ member "g" hcalls .declared "f" hreported).1.mpr (.inl rfl)⟩

def callInVariable : Tree :=
  .node "lexical_declaration" 0 2 none
    [.node "variable_declarator" 0 2 none
      [.node "identifier" 0 1 (some "name") [], .node "arrow_function" 1 2 (some "value") [callOfG]]]

/-- The function of the variable is reported, and its call lost. -/
theorem call_in_variable_is_lost :
    let bytes := Utf8.encode "hg".toList
    (extract .javascript "a.js" "hg" callInVariable).toOption.map
        (fun analysis => (analysis.symbols.map Symbol.name, analysis.relationships)) =
      some (["h"], []) ∧
    ∃ o ∈ preorder callInVariable, CallsName bytes o.node "g" ∧
      Innermost (ReportedAs bytes) o.above (.held, "h") ∧ scriptCall? bytes "a.js" o = none := by
  intro bytes
  let function : Tree := .node "arrow_function" 1 2 (some "value") [callOfG]
  let declarator : Tree :=
    .node "variable_declarator" 0 2 none [.node "identifier" 0 1 (some "name") [], function]
  have member : ⟨[function, declarator, callInVariable], callOfG⟩ ∈ preorder callInVariable := by
    simp [function, declarator, callInVariable, callOfG, preorder, preorderBelow_eq,
      Branching.parts, Tree.children]
  have hreported : ReportedAs bytes function [declarator, callInVariable] (.held, "h") :=
    ⟨.inl rfl, declarator, callInVariable, [], rfl, rfl, rfl, by decide +kernel, rfl⟩
  exact ⟨by decide +kernel, _, member, ⟨rfl, _, rfl, rfl, by decide +kernel⟩, .here hreported,
    by decide +kernel⟩

end Extractor

end CodeIndex.Concrete
