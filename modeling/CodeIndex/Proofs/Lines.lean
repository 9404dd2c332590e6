import CodeIndex.Text.Blank
import CodeIndex.Text.Find
import CodeIndex.Text.Lines
import Mathlib.Data.List.DropRight

/-!
Texts that are cut into pieces, joined, trimmed and searched.

The pieces of a text and the text they are joined to determine each other. What is trimmed is blank,
and what is left does not end in a blank. Where all line ends are read as line feeds, no carriage
return is left and nothing else changes.
-/

namespace CodeIndex.Text

section Fields

variable {sep : Char} {piece : List Char}

theorem fields_ne_nil (sep : Char) (s : List Char) : fields sep s ≠ [] := by
  cases s with
  | nil => simp [fields]
  | cons c rest =>
      unfold fields
      split
      · simp
      · split <;> simp

theorem fields_of_not_mem (h : sep ∉ piece) : fields sep piece = [piece] := by
  induction piece with
  | nil => rfl
  | cons c rest ih =>
      rw [List.mem_cons, not_or] at h
      simp [fields, ih h.2, Ne.symm h.1]

/-- A separator ends one piece and begins another. -/
theorem fields_append_cons (sep : Char) (s t : List Char) :
    fields sep (s ++ sep :: t) = fields sep s ++ fields sep t := by
  induction s with
  | nil =>
      cases ht : fields sep t with
      | nil => exact absurd ht (fields_ne_nil sep t)
      | cons first others => simp [fields, ht]
  | cons c s ih =>
      cases hs : fields sep s with
      | nil => exact absurd hs (fields_ne_nil sep s)
      | cons first others =>
          rw [hs] at ih
          by_cases hc : c = sep <;> simp [fields, ih, hs, hc]

theorem fields_append_sep (h : sep ∉ piece) (rest : List Char) :
    fields sep (piece ++ sep :: rest) = piece :: fields sep rest := by
  rw [fields_append_cons, fields_of_not_mem h]
  rfl

/-- A text has one field more than separators. -/
theorem length_fields (sep : Char) (s : List Char) :
    (fields sep s).length = s.count sep + 1 := by
  induction s with
  | nil => rfl
  | cons c s ih =>
      cases hs : fields sep s with
      | nil => exact absurd hs (fields_ne_nil sep s)
      | cons first others =>
          rw [hs] at ih
          by_cases hc : c = sep
          · simp [fields, hs, hc, ← ih]
          · simp [fields, hs, hc, ← ih, List.count_cons_of_ne hc]

/-- The pieces of a text are the text again when they are joined. -/
theorem join_fields (sep : Char) (s : List Char) : join [sep] (fields sep s) = s := by
  induction s with
  | nil => rfl
  | cons c s ih =>
      cases hs : fields sep s with
      | nil => exact absurd hs (fields_ne_nil sep s)
      | cons first others =>
          rw [hs] at ih
          by_cases hc : c = sep
          · simp [fields, hs, hc, join, ih]
          · cases others with
            | nil => simp_all [fields, join]
            | cons second others => simp_all [fields, join]

theorem mem_of_mem_fields {c : Char} {s : List Char} (hpiece : piece ∈ fields sep s)
    (hc : c ∈ piece) : c ∈ s := by
  rw [← join_fields sep s]
  generalize fields sep s = pieces at hpiece ⊢
  induction pieces with
  | nil => cases hpiece
  | cons first rest ih =>
      cases rest with
      | nil => exact List.mem_singleton.mp hpiece ▸ hc
      | cons second others =>
          rcases List.mem_cons.mp hpiece with rfl | hrest
          · simp [join, hc]
          · exact List.mem_append_right _ (ih hrest)

/-- Pieces that are joined by a separator are found again, if none of them holds it. -/
theorem fields_join {pieces : List (List Char)} (hne : pieces ≠ [])
    (h : ∀ piece ∈ pieces, sep ∉ piece) : fields sep (join [sep] pieces) = pieces := by
  induction pieces with
  | nil => exact absurd rfl hne
  | cons first rest ih =>
      have hfirst : sep ∉ first := h first (by simp)
      cases rest with
      | nil => exact fields_of_not_mem hfirst
      | cons second others =>
          have hrest := ih (by simp) fun piece member => h piece (List.mem_cons_of_mem _ member)
          simp only [join, List.append_assoc, List.singleton_append]
          rw [fields_append_sep hfirst, hrest]

end Fields

section Trim

variable {p : Char → Bool}

theorem dropEndWhile_eq_rdropWhile (p : Char → Bool) (s : List Char) :
    dropEndWhile p s = s.rdropWhile p :=
  rfl

/-- The end of the second text is dropped first, and only if all of it goes that of the first one.
-/
theorem dropEndWhile_append (s t : List Char) :
    dropEndWhile p (s ++ t) =
      if (dropEndWhile p t).isEmpty then dropEndWhile p s else s ++ dropEndWhile p t := by
  unfold dropEndWhile
  rw [List.reverse_append, List.dropWhile_append, List.isEmpty_reverse]
  split <;> simp

theorem trim_append_of_blank (s : List Char) {t : List Char} (h : ∀ c ∈ t, isBlank c = true) :
    trim (s ++ t) = trim s := by
  have hstart : t.dropWhile isBlank = [] := List.dropWhile_eq_nil_iff.mpr h
  have hend : dropEndWhile isBlank t = [] := List.rdropWhile_eq_nil_iff.mpr h
  unfold trim trimWhile
  rw [List.dropWhile_append]
  split
  · next hempty => rw [hstart, List.isEmpty_iff.mp hempty]
  · rw [dropEndWhile_append, hend]
    rfl

/-- Nothing is dropped if the last character is not to be. -/
theorem dropEndWhile_eq_self_iff {s : List Char} :
    dropEndWhile p s = s ↔ s.getLast?.any p = false := by
  rw [dropEndWhile_eq_rdropWhile, List.rdropWhile_eq_self_iff]
  by_cases hne : s = []
  · simp [hne]
  · simp [hne, List.getLast?_eq_some_getLast hne]

private theorem filter_dropWhile (s : List Char) :
    (s.dropWhile p).filter (fun c => !p c) = s.filter fun c => !p c := by
  induction s with
  | nil => rfl
  | cons c s ih => cases hc : p c <;> simp [hc, ih]

/-- What is dropped from the end has the property. -/
theorem filter_dropEndWhile (s : List Char) :
    (dropEndWhile p s).filter (fun c => !p c) = s.filter fun c => !p c := by
  rw [dropEndWhile, List.filter_reverse, filter_dropWhile, List.filter_reverse,
    List.reverse_reverse]

theorem exists_eq_dropEndWhile_append (p : Char → Bool) (s : List Char) :
    ∃ dropped, (∀ c ∈ dropped, p c = true) ∧ s = dropEndWhile p s ++ dropped :=
  ⟨s.rtakeWhile p, fun _ => List.mem_rtakeWhile_imp, List.rdropWhile_append_rtakeWhile.symm⟩

/-- What is left does not end in a character with the property. -/
theorem getLast?_dropEndWhile (s : List Char) : (dropEndWhile p s).getLast?.any p = false := by
  rw [dropEndWhile_eq_rdropWhile]
  by_cases hne : s.rdropWhile p = []
  · simp [hne]
  · simpa [List.getLast?_eq_some_getLast hne] using List.rdropWhile_last_not p s hne

end Trim

theorem trim_sublist (s : List Char) : (trim s).Sublist s :=
  (List.rdropWhile_prefix _ _).sublist.trans (List.dropWhile_sublist _)

section UnixLines

/-- No carriage return is left in a text with line feeds for line ends. -/
theorem carriage_return_not_mem_unixLines (s : List Char) : '\r' ∉ unixLines s := by
  fun_induction unixLines s with
  | case1 => simp
  | case2 rest ih => simpa using ih
  | case3 rest _ ih => simpa using ih
  | case4 c rest _ hc ih => simp [ih, Ne.symm hc]

theorem unixLines_append {s : List Char} (h : '\r' ∉ s) (t : List Char) :
    unixLines (s ++ t) = s ++ unixLines t := by
  induction s with
  | nil => rfl
  | cons c s ih =>
      rw [List.mem_cons, not_or] at h
      have hc : c ≠ '\r' := Ne.symm h.1
      rw [List.cons_append, unixLines, ih h.2, List.cons_append]
      · exact fun rest heq => absurd heq hc
      · exact hc

/-- Line ends of any kind are blank, so a blank text stays blank. -/
theorem isBlank_of_mem_unixLines {s : List Char} (h : ∀ c ∈ s, isBlank c = true) :
    ∀ c ∈ unixLines s, isBlank c = true := by
  fun_induction unixLines s with
  | case1 => simp
  | case2 rest ih =>
      refine List.forall_mem_cons.mpr ⟨by decide, ih fun c member => h c (by simp [member])⟩
  | case3 rest _ ih =>
      refine List.forall_mem_cons.mpr ⟨by decide, ih fun c member => h c (by simp [member])⟩
  | case4 c rest _ _ ih =>
      obtain ⟨hfirst, hrest⟩ := List.forall_mem_cons.mp h
      exact List.forall_mem_cons.mpr ⟨hfirst, ih hrest⟩

end UnixLines

section Join

theorem all_join {p : Char → Bool} {sep : List Char} (hsep : sep.all p = true)
    (pieces : List (List Char)) :
    (join sep pieces).all p = pieces.all fun piece => piece.all p := by
  induction pieces with
  | nil => rfl
  | cons first rest ih =>
      cases rest with
      | nil => simp [join]
      | cons second others =>
          have hjoin : join sep (first :: second :: others) =
              first ++ sep ++ join sep (second :: others) := rfl
          rw [hjoin, List.all_append, List.all_append, hsep, Bool.and_true, ih]
          rfl

end Join

section Find

variable {c : Char} {s : List Char}

private theorem find?_append_cons (h : c ∉ s) (rest : List Char) :
    find? [c] (s ++ c :: rest) = some s.length := by
  induction s with
  | nil => simp [find?]
  | cons d s ih =>
      rw [List.mem_cons, not_or] at h
      have hfirst : [c].isPrefixOf (d :: (s ++ c :: rest)) = false := by
        simpa [List.isPrefixOf] using h.1
      simp [find?, hfirst, ih h.2]

theorem before_append_cons (h : c ∉ s) (rest : List Char) : before [c] (s ++ c :: rest) = s := by
  simp [before, find?_append_cons h]

theorem after?_append_cons (h : c ∉ s) (rest : List Char) :
    after? [c] (s ++ c :: rest) = some rest := by
  simp [after?, find?_append_cons h]

theorem sublist_of_after? {pattern rest : List Char} (h : after? pattern s = some rest) :
    rest.Sublist s := by
  obtain ⟨i, -, rfl⟩ := Option.map_eq_some_iff.mp h
  exact List.drop_sublist _ s

end Find

end CodeIndex.Text
