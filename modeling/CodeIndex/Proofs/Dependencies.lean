import CodeIndex.Proofs.FileSearch
import CodeIndex.Proofs.Files

/-!
The dependencies of a file in three directions.

What a file imports is stored under its path; what imports it is found by its stem, which takes the
names of files apart. So the direction of the imports always has an answer, while the importers, and
both directions together, have one only where names can be taken apart and the stem, with an import
to compare it to, has a length that is taken. Where there are answers they fit together.
-/

namespace CodeIndex

open CodeIndex.Text

namespace Index

def ListsImports (idx : Index) (path : String) (imports : List ImportedModule) : Prop :=
  ∃ stored, Selects (fun r => r.sourceFile = path ∧ r.kind = .imports)
      idx.relationships.values stored ∧
    imports = stored.map fun r => { name := r.target, line := r.line, isExternal := r.isExternal }

/-- The first fifty imports, of any file, of something whose name has the stem of the path as a
pattern in it. -/
def ListsImporters (idx : Index) (path : String) (importers : List ImportLine) : Prop :=
  ∃ stored, Selects (fun r => r.kind = .imports ∧
        Fits (readText ('%' :: (stem path).toList ++ ['%'])) (readText r.target.toList))
      idx.relationships.values stored ∧
    importers = (stored.take 50).map fun r => { file := r.sourceFile, line := r.line }

/-- The stem of a path can be compared with all the imports that are stored. -/
def Compares (idx : Index) (path : String) : Prop :=
  (Utf8.encode (stem path).toList).length ≤ 49998 ∨
    ∀ r ∈ idx.relationships.values, r.kind ≠ .imports

section Directions

variable {idx : Index} {path : String}

private theorem listsImports_importsOf (idx : Index) (path : String) :
    idx.ListsImports path (idx.importsOf path) := by
  refine ⟨_, selects_filter fun r _ => ?_, rfl⟩
  rw [Bool.and_eq_true, beq_iff_eq, beq_iff_eq]

private theorem relationshipsOf_imports_eq_nil_iff :
    idx.relationshipsOf .imports (fun _ => true) = [] ↔
      ∀ r ∈ idx.relationships.values, r.kind ≠ .imports := by
  simp [relationshipsOf]

/-- The importers are listed where the stem can be compared, and else the comparison fails. -/
private theorem importersOf_cases (idx : Index) (path : String) :
    (idx.Compares path ∧ ∃ importers, idx.importersOf path = .ok importers ∧
      idx.ListsImporters path importers) ∨
    (¬idx.Compares path ∧ idx.importersOf path = .error .patternTooLong) := by
  have hcompares : idx.Compares path ↔
      (isPattern (occursPattern (stem path).toList) ||
        (idx.relationshipsOf .imports fun _ => true).isEmpty) = true := by
    rw [Compares, Bool.or_eq_true, isPattern_occursPattern_iff, List.isEmpty_iff,
      relationshipsOf_imports_eq_nil_iff]
  rw [hcompares, importersOf, likeIn]
  split
  · rename_i h
    refine .inl ⟨h, _, rfl, _, ?_, rfl⟩
    rw [relationshipsOf, List.filter_filter]
    apply selects_filter
    intro r _
    rw [Bool.true_and, Bool.and_eq_true, beq_iff_eq, like, fits_iff]
    exact and_comm
  · rename_i h
    exact .inr ⟨h, rfl⟩

/-- The three directions answer, and fit together: the imports are all those that are stored of the
file, the importers are the first fifty, and both directions give what each of them gives. -/
def DirectionsFit (pathNames : Bool) (path : String) (idx : Index) : Prop :=
  ∃ imports importers, idx.ListsImports path imports ∧ idx.ListsImporters path importers ∧
    idx.dependencyTree pathNames path "imports" = .ok { file := path, imports } ∧
    idx.dependencyTree pathNames path "importers" = .ok { file := path, importedBy := importers } ∧
    idx.dependencyTree pathNames path "both" =
      .ok { file := path, imports, importedBy := importers }

private theorem dependencyTree_of_noPathNames {direction : String}
    (hdirection : direction = "importers" ∨ direction = "both") :
    idx.dependencyTree false path direction = .error .noPathNames := by
  rcases hdirection with rfl | rfl <;> rfl

private theorem dependencyTree_of_not_compares (h : ¬idx.Compares path) {direction : String}
    (hdirection : direction = "importers" ∨ direction = "both") :
    idx.dependencyTree true path direction = .error .patternTooLong := by
  obtain ⟨hcompares, -⟩ | ⟨-, hfails⟩ := idx.importersOf_cases path
  · exact absurd hcompares h
  · rcases hdirection with rfl | rfl <;> simp [dependencyTree, hfails, Except.map]

private theorem directionsFit_of_compares (h : idx.Compares path) :
    idx.DirectionsFit true path := by
  obtain ⟨-, importers, hanswer, hlists⟩ | ⟨hnot, -⟩ := idx.importersOf_cases path
  · refine ⟨idx.importsOf path, importers, idx.listsImports_importsOf path, hlists, rfl, ?_, ?_⟩
    · simp [dependencyTree, hanswer, Except.map]
    · simp [dependencyTree, hanswer, Except.map]
  · exact absurd h hnot

end Directions

/-- The directions of the dependencies of a file answer and fit together, for every index, exactly
if names of files can be taken apart and the stem of the file can be compared. The direction of the
imports always answers with all the imports that are stored of the file; where names cannot be taken
apart the importers, and so both directions, never have an answer. -/
theorem dependency_directions_fit_iff (pathNames : Bool) (path : String) (idx : Index) :
    (idx.DirectionsFit pathNames path ↔ pathNames = true ∧ idx.Compares path) ∧
    (∃ imports, idx.ListsImports path imports ∧
      idx.dependencyTree pathNames path "imports" = .ok { file := path, imports }) ∧
    ∀ direction, direction = "importers" ∨ direction = "both" →
      (pathNames = false → idx.dependencyTree pathNames path direction = .error .noPathNames) ∧
      (pathNames = true → ¬idx.Compares path →
        idx.dependencyTree pathNames path direction = .error .patternTooLong) := by
  refine ⟨⟨?_, ?_⟩, ⟨_, idx.listsImports_importsOf path, rfl⟩, ?_⟩
  · rintro ⟨imports, importers, -, -, -, himporters, -⟩
    cases pathNames with
    | false => exact nomatch himporters
    | true =>
        obtain ⟨hcompares, -⟩ | ⟨hnot, -⟩ := idx.importersOf_cases path
        · exact ⟨rfl, hcompares⟩
        · rw [dependencyTree_of_not_compares hnot (.inl rfl)] at himporters
          cases himporters
  · rintro ⟨rfl, hcompares⟩
    exact directionsFit_of_compares hcompares
  · intro direction hdirection
    constructor
    · rintro rfl
      exact dependencyTree_of_noPathNames hdirection
    · rintro rfl hnot
      exact dependencyTree_of_not_compares hnot hdirection

def importsOfTwoFiles : Index :=
  let imported : Relationship :=
    { sourceFile := "lib/a_b.py", source := "<module>", line := 1, target := "os", kind := .imports,
      isExternal := true }
  let called : Relationship :=
    { sourceFile := "lib/a_b.py", source := "f", line := 3, target := "lib.a_b", kind := .calls }
  let importing : Relationship :=
    { sourceFile := "c.py", source := "<module>", line := 2, target := "lib.A-B.f",
      kind := .imports, isExternal := true }
  { relationships := { rows := [(1, imported), (2, called), (3, importing)] } }

/-- The low line of the stem is a wildcard, and the case of letters plays no part. -/
theorem dependency_directions_of_two_files_fit :
    importsOfTwoFiles.Compares "lib/a_b.py" ∧ importsOfTwoFiles.DirectionsFit true "lib/a_b.py" ∧
      importsOfTwoFiles.dependencyTree true "lib/a_b.py" "both" =
        .ok { file := "lib/a_b.py"
              imports := [{ name := "os", line := 1, isExternal := true }]
              importedBy := [{ file := "c.py", line := 2 }] } := by
  have hcompares : importsOfTwoFiles.Compares "lib/a_b.py" := .inl (by decide +kernel)
  refine ⟨hcompares, (dependency_directions_fit_iff true _ _).1.mpr ⟨rfl, hcompares⟩, ?_⟩
  exact eq_ok_of_toOption (by decide +kernel)

/-- Without names of files to take apart, the default direction has no answer, though the import is
stored and given as one of the file. -/
theorem dependencies_without_path_names_fail :
    importsOfTwoFiles.dependencyTree false "lib/a_b.py" "both" = .error .noPathNames ∧
      importsOfTwoFiles.dependencyTree false "lib/a_b.py" "importers" = .error .noPathNames ∧
      importsOfTwoFiles.dependencyTree false "lib/a_b.py" "imports" =
        .ok { file := "lib/a_b.py", imports := [{ name := "os", line := 1, isExternal := true }] } :=
  ⟨rfl, rfl, eq_ok_of_toOption (by decide +kernel)⟩

end Index

end CodeIndex
