import CodeIndex.Proofs.Extraction

/-!
The modules that import statements of Python name, and those that are extracted.

A statement names a module by itself or under an alias. A module by itself is a part of the
statement, and is extracted. One under an alias is a part of a part, which is passed over. So the
modules that are extracted are some of those that the statements of a tree name, in their order, and
they are all of them only if no statement gives an alias.
-/

namespace CodeIndex

section Lists

variable {α β : Type} {l : List α} {f g : α → List β}

private theorem flatMap_sublist_flatMap (h : ∀ a ∈ l, (f a).Sublist (g a)) :
    (l.flatMap f).Sublist (l.flatMap g) := by
  induction l with
  | nil => exact .slnil
  | cons a rest ih =>
      obtain ⟨hfirst, hrest⟩ := List.forall_mem_cons.mp h
      rw [List.flatMap_cons, List.flatMap_cons]
      exact hfirst.append (ih hrest)

/-- Where some items are left out of lists, what is left makes the same list together only if none
are. -/
private theorem flatMap_eq_flatMap_iff (h : ∀ a ∈ l, (f a).Sublist (g a)) :
    l.flatMap f = l.flatMap g ↔ ∀ a ∈ l, f a = g a := by
  induction l with
  | nil => simp
  | cons a rest ih =>
      obtain ⟨hfirst, hrest⟩ := List.forall_mem_cons.mp h
      rw [List.flatMap_cons, List.flatMap_cons, List.forall_mem_cons, ← ih hrest]
      constructor
      · intro heq
        have hlength := congrArg List.length heq
        rw [List.length_append, List.length_append] at hlength
        have hle := hfirst.length_le
        have hrestLe := (flatMap_sublist_flatMap hrest).length_le
        exact List.append_inj heq (by omega)
      · rintro ⟨hfirst, hrest⟩
        rw [hfirst, hrest]

end Lists

namespace Concrete.Extractor

open CodeIndex.Text

/-! ### Modules -/

/-- The module that a part of an import statement names: by itself, or under an alias. -/
def namedModule? (bytes : List UInt8) (part : Tree) : Option String :=
  match part.kind with
  | "dotted_name" => text? bytes part
  | "aliased_import" => (part.child? "name").bind (text? bytes)
  | _ => none

def namedModules (bytes : List UInt8) (t : Tree) : List String :=
  match t.kind with
  | "import_statement" => t.children.filterMap (namedModule? bytes)
  | "import_from_statement" => ((t.child? "module_name").bind (text? bytes)).toList
  | _ => []

def plainModules (bytes : List UInt8) (t : Tree) : List String :=
  match t.kind with
  | "import_statement" => (t.childrenOf "dotted_name").filterMap (text? bytes)
  | "import_from_statement" => ((t.child? "module_name").bind (text? bytes)).toList
  | _ => []

def GivesAlias (t : Tree) : Prop :=
  t.kind = "import_statement" ∧
    ∃ part ∈ t.children, part.kind = "aliased_import" ∧ part.child? "name" ≠ none

def importsIn (relationships : List Relationship) : List Relationship :=
  relationships.filter fun r => r.kind = .imports

section Modules

variable {bytes : List UInt8} {t : Tree}

private theorem Legible.exists_text? (h : Legible bytes t) : ∃ name, text? bytes t = some name := by
  obtain ⟨name, hname⟩ := not_fails_iff.mp h.text
  exact ⟨name, by rw [text?, hname]; rfl⟩

def plainModule? (bytes : List UInt8) (part : Tree) : Option String :=
  if part.kind = "dotted_name" then text? bytes part else none

private theorem plainModules_eq (hkind : t.kind = "import_statement") :
    plainModules bytes t = t.children.flatMap fun part => (plainModule? bytes part).toList := by
  rw [← List.filterMap_eq_flatMap_toList]
  unfold plainModules Tree.childrenOf
  simp only [hkind]
  rw [List.filterMap_filter]
  apply List.filterMap_congr
  intro part _
  simp [plainModule?]

private theorem namedModules_eq (hkind : t.kind = "import_statement") :
    namedModules bytes t = t.children.flatMap fun part => (namedModule? bytes part).toList := by
  rw [← List.filterMap_eq_flatMap_toList]
  unfold namedModules
  simp only [hkind]

private theorem plainModules_of_other (hkind : t.kind ≠ "import_statement") :
    plainModules bytes t = namedModules bytes t := by
  unfold plainModules namedModules
  split <;> simp_all

private theorem plainModule?_sublist (bytes : List UInt8) (part : Tree) :
    (plainModule? bytes part).toList.Sublist (namedModule? bytes part).toList := by
  by_cases hplain : part.kind = "dotted_name"
  · simp [plainModule?, namedModule?, hplain]
  · rw [plainModule?, if_neg hplain]
    exact List.nil_sublist _

/-- A part is passed over if it names a module under an alias. -/
private theorem plainModule?_eq_iff {part : Tree} (h : Legible bytes part) :
    plainModule? bytes part = namedModule? bytes part ↔
      ¬(part.kind = "aliased_import" ∧ part.child? "name" ≠ none) := by
  by_cases hplain : part.kind = "dotted_name"
  · simp [plainModule?, namedModule?, hplain]
  · rw [plainModule?, if_neg hplain]
    by_cases halias : part.kind = "aliased_import"
    · cases hname : part.child? "name" with
      | none => simp [namedModule?, halias, hname]
      | some node =>
          obtain ⟨name, htext⟩ := (h.child (Tree.mem_of_child? hname)).exists_text?
          simp [namedModule?, halias, hname, htext]
    · simp [namedModule?, halias]

private theorem plainModules_sublist (bytes : List UInt8) (t : Tree) :
    (plainModules bytes t).Sublist (namedModules bytes t) := by
  by_cases hkind : t.kind = "import_statement"
  · rw [plainModules_eq hkind, namedModules_eq hkind]
    exact flatMap_sublist_flatMap fun part _ => plainModule?_sublist bytes part
  · exact plainModules_of_other hkind ▸ List.Sublist.refl _

/-- The modules of a statement are all extracted if it gives no alias. -/
private theorem plainModules_eq_iff (h : Legible bytes t) :
    plainModules bytes t = namedModules bytes t ↔ ¬GivesAlias t := by
  by_cases hkind : t.kind = "import_statement"
  · have hparts (part : Tree) (member : part ∈ t.children) :
        (plainModule? bytes part).toList = (namedModule? bytes part).toList ↔
          ¬(part.kind = "aliased_import" ∧ part.child? "name" ≠ none) := by
      rw [← plainModule?_eq_iff (h.child member)]
      cases plainModule? bytes part <;> cases namedModule? bytes part <;> simp
    rw [plainModules_eq hkind, namedModules_eq hkind,
      flatMap_eq_flatMap_iff fun part _ => plainModule?_sublist bytes part]
    constructor
    · rintro heq ⟨-, part, member, hpart⟩
      exact (hparts part member).mp (heq part member) hpart
    · intro hnone part member
      exact (hparts part member).mpr fun hpart => hnone ⟨hkind, part, member, hpart⟩
  · exact iff_of_true (plainModules_of_other hkind) fun halias => hkind halias.1

end Modules

/-! ### One node -/

/-- What a node adds are these modules, each as an import and as a relationship of its line. -/
structure Imports (bytes : List UInt8) (path : String) (t : Tree) (modules : List String)
    (own : Found) : Prop where
  imports : own.imports = modules
  relationships : importsIn own.relationships =
    modules.map (importRelationship path (t.firstLine bytes))

section Node

variable {bytes : List UInt8} {path : String} {scope : Scope} {t : Tree}

private theorem importsIn_map_of_ne {α : Type} {f : α → Relationship}
    (h : ∀ a, (f a).kind ≠ .imports) (items : List α) : importsIn (items.map f) = [] := by
  simp [importsIn, h]

private theorem imports_own (modules : List String) :
    Imports bytes path t modules
      { imports := modules
        relationships := modules.map (importRelationship path (t.firstLine bytes)) } where
  imports := rfl
  relationships := by
    unfold importsIn
    rw [List.filter_eq_self]
    simp [importRelationship]

/-- A node that is no import statement adds no modules. -/
private theorem imports_other {own : Found}
    (hkind : t.kind ∉ ["import_statement", "import_from_statement"])
    (himports : own.imports = []) (hrelationships : importsIn own.relationships = []) :
    Imports bytes path t (plainModules bytes t) own := by
  have hnone : plainModules bytes t = [] := by
    unfold plainModules
    split <;> simp_all
  rw [hnone]
  exact ⟨himports, hrelationships⟩

private theorem texts_yield (parts : List Tree) :
    Yields (fun names => parts.filterMap (text? bytes) = names) (parts.mapM (text bytes)) := by
  induction parts with
  | nil => exact .pure rfl
  | cons part rest ih =>
      rw [List.mapM_cons]
      refine .bind (text_yields part) fun name hname => .bind ih fun names hnames => .pure ?_
      rw [List.filterMap_cons, hname, hnames]

private theorem pythonClass_imports {name : String} (hkind : t.kind = "class_definition") :
    Yields (fun result => Imports bytes path t (plainModules bytes t) result.1)
      (pythonClass bytes path scope t name) := by
  have hbases (bases : List String) :
      importsIn (bases.map (inheritance path name (t.firstLine bytes))) = [] :=
    importsIn_map_of_ne (by simp [inheritance]) bases
  refine .after fun doc => ?_
  simp only
  split
  · exact .after fun bases => .pure (imports_other (by simp [hkind]) rfl (hbases bases))
  · exact .after fun bases => .pure (imports_other (by simp [hkind]) rfl (hbases bases))

private theorem callOf_imports (hkind : t.kind = "call") (memberKind memberField : String) :
    Yields (Imports bytes path t (plainModules bytes t))
      (callOf bytes path memberKind memberField scope t) := by
  unfold callOf
  split
  · refine .after fun target? => ?_
    split
    · exact .pure (imports_other (by simp [hkind]) rfl rfl)
    · exact .pure (imports_other (by simp [hkind]) rfl rfl)
  · exact .pure (imports_other (by simp [hkind]) rfl rfl)

/-- A node adds the modules that it names by themselves. -/
private theorem pythonRule_imports (scope : Scope) (t : Tree) :
    Yields (fun result => Imports bytes path t (plainModules bytes t) result.1)
      (pythonRule bytes path scope t) := by
  unfold pythonRule
  split
  · rename_i hkind
    refine .after fun name? => ?_
    split
    · exact .after fun _ => .after fun _ => .pure (imports_other (by simp [hkind]) rfl rfl)
    · exact .pure (imports_other (by simp [hkind]) rfl rfl)
  · rename_i hkind
    refine .after fun name? => ?_
    split
    · exact pythonClass_imports hkind
    · exact .pure (imports_other (by simp [hkind]) rfl rfl)
  · rename_i hkind
    exact .bind (callOf_imports hkind _ _) fun own h => .pure h
  · rename_i hkind
    refine .bind (texts_yield _) fun names hnames => .pure ?_
    have hmodules : plainModules bytes t = names := by simp only [plainModules, hkind, hnames]
    rw [foldl_importOf, hmodules]
    exact imports_own names
  · rename_i hkind
    refine .bind (fieldText_yields t "module_name") fun name? hname => ?_
    have hmodules : plainModules bytes t = name?.toList := by
      simp only [plainModules, hkind, hname]
    rw [hmodules]
    cases name? with
    | none => exact .pure (imports_own [])
    | some name => exact .pure (imports_own [name])
  · rename_i hstatement hfrom
    refine .pure (imports_other ?_ rfl rfl)
    simp only [List.mem_cons, List.not_mem_nil, or_false, not_or]
    exact ⟨hstatement, hfrom⟩

end Node

/-! ### The whole extraction -/

private theorem walk_imports (bytes : List UInt8) (path : String) (root : Tree) :
    Yields (fun found =>
        found.imports = (preorder root).flatMap (fun o => plainModules bytes o.node) ∧
          importsIn found.relationships = (preorder root).flatMap fun o =>
            (plainModules bytes o.node).map (importRelationship path (o.node.firstLine bytes)))
      (walk (pythonRule bytes path) {} root) := by
  have hown (o : Occurrence Tree) :
      Yields (Imports bytes path o.node (plainModules bytes o.node))
        (foundAt (pythonRule bytes path) (pythonNaming bytes).scopeOf o) :=
    .bind (pythonRule_imports _ o.node) fun _ h => .pure h
  rw [walk_eq_gather_foundAt]
  intro found h
  constructor
  · exact gather_views Found.imports rfl (fun _ _ => rfl)
      (fun o _ own hat => (hown o own hat).imports) found h
  · exact gather_views (fun found => importsIn found.relationships) rfl
      (fun _ _ => List.filter_append ..) (fun o _ own hat => (hown o own hat).relationships) found h

/-- A Python tree whose texts are all UTF-8 is extracted without a failure. Its import statements,
at any depth, add the modules that they name by themselves, each once and in order, to the imports
and to the relationships of that kind. A statement adds all the modules that it names if it gives no
alias, and both lists are complete if no statement of the tree does. -/
theorem imported_modules_are_extracted_iff (path content : String) (root : Tree)
    (hdecodes : ∀ o ∈ preorder root, ∃ chars,
      Utf8.decode (o.node.bytesIn (Utf8.encode content.toList)) = .ok chars) :
    let bytes := Utf8.encode content.toList
    let entries (modules : Tree → List String) := (preorder root).flatMap fun o =>
      (modules o.node).map (importRelationship path (o.node.firstLine bytes))
    ∃ analysis, extract .python path content root = .ok analysis ∧
      analysis.imports = (preorder root).flatMap (fun o => plainModules bytes o.node) ∧
      importsIn analysis.relationships = entries (plainModules bytes) ∧
      (∀ o ∈ preorder root,
        plainModules bytes o.node = namedModules bytes o.node ↔ ¬GivesAlias o.node) ∧
      (analysis.imports = (preorder root).flatMap (fun o => namedModules bytes o.node) ∧
          importsIn analysis.relationships = entries (namedModules bytes) ↔
        ∀ o ∈ preorder root, ¬GivesAlias o.node) := by
  intro bytes entries
  have htexts := texts_not_fail hdecodes
  have hwalk : ¬Fails (walk (pythonRule bytes path) {} root) := walk_not_fails htexts
  obtain ⟨found, hfound⟩ := not_fails_iff.mp hwalk
  obtain ⟨himports, hrelationships⟩ := walk_imports bytes path root found hfound
  have hextract : extract .python path content root = .ok (found.analysis path) := by
    change (walk (pythonRule bytes path) {} root).map (Found.analysis path) = _
    rw [hfound]
    rfl
  have hnodes (o : Occurrence Tree) (member : o ∈ preorder root) :
      plainModules bytes o.node = namedModules bytes o.node ↔ ¬GivesAlias o.node :=
    plainModules_eq_iff (legible_of_forall root [] htexts o member)
  refine ⟨found.analysis path, hextract, himports, hrelationships, hnodes, ?_⟩
  change found.imports = _ ∧ importsIn found.relationships = _ ↔ _
  have hall : (∀ o ∈ preorder root, plainModules bytes o.node = namedModules bytes o.node) ↔
      ∀ o ∈ preorder root, ¬GivesAlias o.node :=
    forall_congr' fun o => forall_congr' (hnodes o)
  rw [himports, hrelationships, ← hall,
    flatMap_eq_flatMap_iff fun o _ => plainModules_sublist bytes o.node]
  refine and_iff_left_of_imp fun hsame => List.flatMap_congr ?_
  intro o member
  rw [hsame o member]

def importsInFunction : Tree :=
  .node "function_definition" 0 5 none
    [.node "import_statement" 0 4 none
      [.node "dotted_name" 0 1 (some "name") [], .node "dotted_name" 1 4 (some "name") []],
      .node "import_from_statement" 4 5 none [.node "dotted_name" 4 5 (some "module_name") []]]

theorem imports_in_function_are_extracted :
    let bytes := Utf8.encode "ab.cd".toList
    (∀ o ∈ preorder importsInFunction, ∃ chars, Utf8.decode (o.node.bytesIn bytes) = .ok chars) ∧
      (∀ o ∈ preorder importsInFunction, ¬GivesAlias o.node) ∧
      ∃ analysis, extract .python "a.py" "ab.cd" importsInFunction = .ok analysis ∧
        analysis.imports = (preorder importsInFunction).flatMap (fun o =>
          namedModules bytes o.node) ∧
        analysis.imports = ["a", "b.c", "d"] ∧
        importsIn analysis.relationships =
          ["a", "b.c", "d"].map (importRelationship "a.py" 1) := by
  intro bytes
  have hdecodes : ∀ o ∈ preorder importsInFunction, ∃ chars,
      Utf8.decode (o.node.bytesIn bytes) = .ok chars := by
    intro o member
    simp [importsInFunction, preorder, preorderBelow_eq, Branching.parts, Tree.children] at member
    rcases member with rfl | rfl | rfl | rfl | rfl | rfl <;> exact ⟨_, rfl⟩
  have hplain : ∀ o ∈ preorder importsInFunction, ¬GivesAlias o.node := by
    intro o member
    simp [importsInFunction, preorder, preorderBelow_eq, Branching.parts, Tree.children] at member
    rcases member with rfl | rfl | rfl | rfl | rfl | rfl <;>
      simp [GivesAlias, Tree.kind, Tree.children]
  obtain ⟨analysis, hextract, -, -, -, hcomplete⟩ :=
    imported_modules_are_extracted_iff "a.py" "ab.cd" importsInFunction hdecodes
  have hshown : (extract .python "a.py" "ab.cd" importsInFunction).toOption.map
      (fun a => (a.imports, importsIn a.relationships)) =
        some (["a", "b.c", "d"], ["a", "b.c", "d"].map (importRelationship "a.py" 1)) := by
    decide +kernel
  rw [hextract] at hshown
  obtain ⟨himports, hrelationships⟩ := Prod.mk.inj (Option.some.inj hshown)
  exact ⟨hdecodes, hplain, analysis, hextract, (hcomplete.mpr hplain).1, himports, hrelationships⟩

/-- The statement `import a.b as c`. -/
def importUnderAlias : Tree :=
  .node "import_statement" 0 15 none
    [.node "import" 0 6 none [],
      .node "aliased_import" 7 15 (some "name")
        [.node "dotted_name" 7 10 (some "name")
          [.node "identifier" 7 8 none [], .node "." 8 9 none [], .node "identifier" 9 10 none []],
          .node "as" 11 13 none [], .node "identifier" 14 15 (some "alias") []]]

/-- The module is named, and not extracted. -/
theorem import_under_alias_is_lost :
    let content := "import a.b as c"
    namedModules (Utf8.encode content.toList) importUnderAlias = ["a.b"] ∧
      (extract .python "a.py" content importUnderAlias).toOption.map
          (fun analysis => (analysis.imports, analysis.relationships)) = some ([], []) := by
  decide +kernel

end Concrete.Extractor

end CodeIndex
