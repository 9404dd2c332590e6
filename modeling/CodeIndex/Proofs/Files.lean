import CodeIndex.Project.Files

/-!
What a path leads to, for the paths by which a tree itself names its files: relative to the root, in
normal form and without steps upwards. Such a path leads to the bytes that are kept under it.
-/

namespace CodeIndex

/-- Results are compared with one that can be computed. -/
theorem eq_ok_of_toOption {ε α : Type} {result : Except ε α} {value : α}
    (h : result.toOption = some value) : result = .ok value := by
  cases result with
  | error _ => cases h
  | ok _ => rw [Option.some.inj h]

namespace Files

open CodeIndex.Text

/-- A path by which a tree names a file. -/
def isName (path : String) : Bool :=
  !(components path.toList).isEmpty && !(components path.toList).contains ['.', '.'] &&
    !(['/'].isPrefixOf path.toList) && FileName.path (components path.toList) == path

def Named (f : Files) : Prop :=
  ∀ path ∈ f.paths, isName path = true

instance (f : Files) : Decidable f.Named :=
  inferInstanceAs (Decidable (∀ path ∈ f.paths, isName path = true))

theorem mem_paths_iff (f : Files) (path : String) :
    path ∈ f.paths ↔ ∃ bytes, f.contents.lookup path = some bytes := by
  rw [← Option.isSome_iff_exists, List.lookup_isSome_iff, paths, List.mem_map]
  constructor
  · rintro ⟨entry, member, rfl⟩
    exact ⟨entry, member, beq_self_eq_true _⟩
  · rintro ⟨entry, member, hpath⟩
    exact ⟨entry, member, (eq_of_beq hpath).symm⟩

/-- Without steps upwards the components are followed one after the other. -/
private theorem follow_eq_entryOf (f : Files) (name steps : FileName) (h : ['.', '.'] ∉ steps) :
    f.follow name steps = f.entryOf (name.reverse ++ steps) := by
  induction steps generalizing name with
  | nil => simp [follow]
  | cons step rest ih =>
      rw [List.mem_cons, not_or] at h
      obtain ⟨hstep, hrest⟩ := h
      have hne : (step == ['.', '.']) = false := beq_eq_false_iff_ne.mpr (Ne.symm hstep)
      simp only [follow, hne, Bool.false_eq_true, ↓reduceIte]
      rw [ih (step :: name) hrest]
      simp

private theorem entryOf_eq_file_iff (f : Files) (name : FileName) (bytes : List UInt8) :
    f.entryOf name = .file bytes ↔ f.contents.lookup (FileName.path name) = some bytes := by
  unfold entryOf
  cases hlookup : f.contents.lookup (FileName.path name) with
  | some kept => simp
  | none =>
      simp only [reduceCtorEq, iff_false]
      split <;> simp

private theorem entry_of_isName (f : Files) (path : String) (h : isName path = true)
    (bytes : List UInt8) (hbytes : f.contents.lookup path = some bytes) :
    f.entry path = .file bytes := by
  simp only [isName, Bool.and_eq_true, Bool.not_eq_true', beq_iff_eq] at h
  obtain ⟨⟨⟨-, hup⟩, hroot⟩, hpath⟩ := h
  have hsteps : ['.', '.'] ∉ components path.toList := by
    intro member
    rw [List.contains_iff_mem.mpr member] at hup
    cases hup
  simp only [entry, hroot, Bool.false_eq_true, ↓reduceIte]
  rw [follow_eq_entryOf f [] _ hsteps]
  apply (entryOf_eq_file_iff _ _ _).mpr
  rw [List.reverse_nil, List.nil_append, hpath, hbytes]

private theorem lookup_insertOrdered (path : String) (bytes : List UInt8)
    (contents : List (String × List UInt8)) :
    (insertOrdered path bytes contents).lookup path = some bytes := by
  induction contents with
  | nil => exact List.lookup_cons_self
  | cons entry rest ih =>
      obtain ⟨first, old⟩ := entry
      unfold insertOrdered
      split
      · exact List.lookup_cons_self
      · split
        · exact List.lookup_cons_self
        · next hfirst =>
            rw [List.lookup_cons, Bool.eq_false_iff.mpr hfirst]
            exact ih

/-- A file that is written under a name is there. -/
theorem entry_write (f : Files) (path : String) (h : isName path = true) (bytes : List UInt8) :
    (f.write path bytes).entry path = .file bytes := by
  apply entry_of_isName _ path h
  have hpath : FileName.path (components path.toList) = path := by
    simp only [isName, Bool.and_eq_true, beq_iff_eq] at h
    exact h.2
  simp only [write, addDirectories, hpath]
  exact lookup_insertOrdered path bytes f.contents

private theorem insertOrdered_insertOrdered (path : String) (bytes : List UInt8)
    (contents : List (String × List UInt8)) :
    insertOrdered path bytes (insertOrdered path bytes contents) =
      insertOrdered path bytes contents := by
  have hhere (rest : List (String × List UInt8)) :
      insertOrdered path bytes ((path, bytes) :: rest) = (path, bytes) :: rest := by
    rw [insertOrdered, if_neg (String.lt_irrefl path), if_pos (beq_self_eq_true path)]
  induction contents with
  | nil => exact hhere []
  | cons entry rest ih =>
      obtain ⟨first, old⟩ := entry
      by_cases hbefore : path < first
      · rw [insertOrdered, if_pos hbefore]
        exact hhere _
      · by_cases hsame : (path == first) = true
        · rw [insertOrdered, if_neg hbefore, if_pos hsame]
          exact hhere rest
        · rw [insertOrdered, if_neg hbefore, if_neg hsame, insertOrdered, if_neg hbefore,
            if_neg hsame, ih]

private theorem addDirectories_addDirectories (names : List String) (f : Files) :
    addDirectories names (addDirectories names f) = addDirectories names f := by
  have hnone : names.filter (fun name =>
      !(addDirectories names f).directories.contains name) = [] := by
    apply List.filter_eq_nil_iff.mpr
    intro name member
    by_cases hthere : name ∈ f.directories <;> simp [addDirectories, hthere, member]
  rw [addDirectories, hnone, List.append_nil]

/-- A file that is written once more leaves all as it is. -/
theorem write_write (f : Files) (path : String) (bytes : List UInt8) :
    (f.write path bytes).write path bytes = f.write path bytes := by
  have hcontents : insertOrdered (FileName.path (components path.toList)) bytes
      (f.write path bytes).contents = (f.write path bytes).contents :=
    insertOrdered_insertOrdered _ bytes f.contents
  rw [write, hcontents]
  exact addDirectories_addDirectories (parents (components path.toList))
    { f with contents := insertOrdered (FileName.path (components path.toList)) bytes f.contents }

/-- A file that two trees keep with the same bytes is read alike in both. -/
theorem readText_eq_of_lookup_eq (f g : Files) (path : String) (h : isName path = true)
    (bytes : List UInt8) (hf : f.contents.lookup path = some bytes)
    (hg : g.contents.lookup path = some bytes) : f.readText path = g.readText path := by
  rw [readText, readText, entry_of_isName f path h bytes hf, entry_of_isName g path h bytes hg]

theorem exists?_of_readText {f : Files} {path : String} {content : List Char}
    (h : f.readText path = .ok content) : f.exists? path = true := by
  unfold readText at h
  unfold exists?
  cases hentry : f.entry path with
  | missing =>
      rw [hentry] at h
      cases h
  | directory => rfl
  | file bytes => rfl

/-- A path leads to the bytes of a file that is kept, under whatever name. -/
private theorem mem_contents_of_follow {f : Files} {name steps : FileName} {bytes : List UInt8}
    (h : f.follow name steps = .file bytes) : ∃ kept, (kept, bytes) ∈ f.contents := by
  induction steps generalizing name with
  | nil =>
      have hlookup := (entryOf_eq_file_iff _ _ _).mp h
      obtain ⟨before, after, hcontents, -⟩ := List.lookup_eq_some_iff.mp hlookup
      exact ⟨FileName.path name.reverse, by simp [hcontents]⟩
  | cons step rest ih =>
      unfold follow at h
      split at h
      · split at h
        · cases name with
          | nil =>
              simp only at h
              split at h <;> cases h
          | cons _ outer => exact ih h
        · cases h
      · exact ih h

/-- All that can be read is the text of a file that is kept. -/
theorem mem_contents_of_readText {f : Files} {path : String} {content : List Char}
    (h : f.readText path = .ok content) :
    ∃ entry ∈ f.contents, ∃ text, Utf8.decode entry.2 = .ok text ∧ unixLines text = content := by
  unfold readText at h
  cases hentry : f.entry path with
  | missing =>
      rw [hentry] at h
      cases h
  | directory =>
      rw [hentry] at h
      cases h
  | file bytes =>
      have hfollow : f.follow [] (components path.toList) = .file bytes := by
        unfold entry at hentry
        split at hentry
        · split at hentry <;> cases hentry
        · exact hentry
      obtain ⟨kept, member⟩ := mem_contents_of_follow hfollow
      simp only [hentry] at h
      cases htext : Utf8.decode bytes with
      | error failure =>
          rw [htext] at h
          cases h
      | ok text =>
          rw [htext] at h
          cases h
          exact ⟨(kept, bytes), member, text, htext, rfl⟩

section Remove

variable {f : Files} {path other : String}

private theorem lookup_filter (path other : String) (entries : List (String × List UInt8)) :
    (entries.filter fun entry => entry.1 != path).lookup other =
      if other = path then none else entries.lookup other := by
  induction entries with
  | nil => simp
  | cons entry rest ih =>
      obtain ⟨first, bytes⟩ := entry
      rw [List.filter_cons, List.lookup_cons]
      by_cases hfirst : first = path
      · subst first
        by_cases hother : other = path
        · simpa [hother] using ih
        · simpa [hother, beq_eq_false_iff_ne.mpr hother] using ih
      · by_cases hother : other = path
        · have hne : (path == first) = false := beq_eq_false_iff_ne.mpr (Ne.symm hfirst)
          subst other
          simpa [hfirst, List.lookup_cons, hne] using ih
        · simp only [hother, ↓reduceIte] at ih
          simp [hfirst, hother, List.lookup_cons, ih]

/-- When a file is removed, a path leads where it led before, or it led to a file and does no
longer. -/
private theorem follow_remove (name steps : FileName) :
    (f.remove path).follow name steps = f.follow name steps ∨
      (∃ bytes, f.follow name steps = .file bytes) ∧
        ∀ bytes, (f.remove path).follow name steps ≠ .file bytes := by
  induction steps generalizing name with
  | nil =>
      have hkept := lookup_filter (FileName.path (components path.toList))
        (FileName.path name.reverse) f.contents
      cases hlookup : f.contents.lookup (FileName.path name.reverse) with
      | none =>
          rw [hlookup, ite_self] at hkept
          left
          simp only [follow, entryOf, remove, hkept, hlookup]
          rfl
      | some bytes =>
          by_cases hremoved : FileName.path name.reverse = FileName.path (components path.toList)
          · rw [if_pos hremoved] at hkept
            refine Or.inr ⟨⟨bytes, (entryOf_eq_file_iff _ _ _).mpr hlookup⟩, fun other h => ?_⟩
            have hother := (entryOf_eq_file_iff _ _ _).mp h
            simp only [remove, hkept] at hother
            cases hother
          · rw [if_neg hremoved, hlookup] at hkept
            left
            simp only [follow, entryOf, remove, hkept, hlookup]
  | cons step rest ih =>
      -- A step upwards asks for a directory, and all directories stay.
      have hdirectory : (f.remove path).isDirectory name.reverse = f.isDirectory name.reverse := rfl
      simp only [follow, hdirectory]
      split
      · split
        · cases name with
          | nil => exact Or.inl rfl
          | cons _ outer => exact ih outer
        · exact Or.inl rfl
      · exact ih (step :: name)

private theorem entry_remove (f : Files) (path other : String) :
    (f.remove path).entry other = f.entry other ∨
      (∃ bytes, f.entry other = .file bytes) ∧
        ∀ bytes, (f.remove path).entry other ≠ .file bytes := by
  unfold entry
  split
  · exact Or.inl rfl
  · exact follow_remove [] _

/-- The loss of a file brings no new text. -/
theorem readText_of_readText_remove {content : List Char}
    (h : (f.remove path).readText other = .ok content) : f.readText other = .ok content := by
  rcases f.entry_remove path other with hsame | ⟨-, hlost⟩
  · simpa only [readText, hsame] using h
  · cases hentry : (f.remove path).entry other with
    | missing =>
        simp only [readText, hentry] at h
        cases h
    | directory =>
        simp only [readText, hentry] at h
        cases h
    | file bytes => exact absurd hentry (hlost bytes)

theorem exists?_of_exists?_remove (h : (f.remove path).exists? other = true) :
    f.exists? other = true := by
  rcases f.entry_remove path other with hsame | ⟨⟨bytes, hfile⟩, -⟩
  · simpa only [exists?, hsame] using h
  · simp [exists?, hfile]

end Remove

end Files

end CodeIndex
