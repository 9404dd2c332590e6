import CodeIndex.Proofs.Lines
import CodeIndex.Summary.Basic

/-!
Definitions of Python files are counted as texts behind a line feed, and are lines all the same.

A pattern that starts with a line feed, and has no other, cannot overlap itself: behind an
occurrence the search goes on at a place from which no line feed was left out. So its occurrences
are counted one line feed at a time, and each is a line, other than the first, that starts with the
rest of the pattern.
-/

namespace CodeIndex

namespace Text

section Occurrences

variable {sep : Char} {word s : List Char}

/-- A place is left out of the count only if a separator stands there. -/
private theorem occurrencesFrom_eq {skip : Nat} (h : sep ∉ s.take skip) :
    occurrencesFrom (sep :: word) skip s = occurrences (sep :: word) s := by
  induction s generalizing skip with
  | nil => rfl
  | cons c rest ih =>
      cases skip with
      | zero => rfl
      | succ skip =>
          rw [List.take_succ_cons, List.mem_cons, not_or] at h
          have hhere : (sep :: word).isPrefixOf (c :: rest) = false := by
            simp [List.isPrefixOf, h.1]
          rw [occurrencesFrom, ih h.2]
          simp [occurrences, occurrencesFrom, hhere]

/-- An occurrence takes no separator away from those behind it. -/
private theorem occurrences_cons (hword : sep ∉ word) (c : Char) (rest : List Char) :
    occurrences (sep :: word) (c :: rest) =
      (if c = sep ∧ word <+: rest then 1 else 0) + occurrences (sep :: word) rest := by
  rw [occurrences, occurrencesFrom]
  by_cases h : c = sep ∧ word <+: rest
  · obtain ⟨rfl, after, rfl⟩ := h
    have hskip : c ∉ (word ++ after).take word.length := by simpa using hword
    simp [List.isPrefixOf, List.isPrefixOf_iff_prefix, occurrencesFrom_eq hskip]
  · have hhere : ¬(sep :: word) <+: c :: rest := by
      rwa [List.cons_prefix_cons, eq_comm]
    rw [if_neg h, if_neg (by rwa [List.isPrefixOf_iff_prefix]), Nat.zero_add]
    rfl

/-- A text without separators starts a text if it starts the first piece of it. -/
private theorem prefix_iff_prefix_head (hword : sep ∉ word) {first : List Char}
    {others : List (List Char)} (hfields : fields sep s = first :: others) :
    word <+: s ↔ word <+: first := by
  induction word generalizing s first others with
  | nil => simp
  | cons c word ih =>
      rw [List.mem_cons, not_or] at hword
      cases s with
      | nil =>
          obtain ⟨rfl, -⟩ := List.cons.inj hfields
          rfl
      | cons d s =>
          obtain ⟨head, tail, hs⟩ := List.exists_cons_of_ne_nil (fields_ne_nil sep s)
          rw [fields, hs] at hfields
          by_cases hd : d = sep
          · simp only [hd, if_true] at hfields
            obtain ⟨rfl, -⟩ := List.cons.inj hfields
            simp [List.cons_prefix_cons, hd, Ne.symm hword.1]
          · simp only [hd, if_false] at hfields
            obtain ⟨rfl, -⟩ := List.cons.inj hfields
            rw [List.cons_prefix_cons, List.cons_prefix_cons, ih hword.2 hs]

/-- The occurrences behind a separator are the pieces, other than the first, that start with the
word. -/
private theorem occurrences_eq_countP_fields (hword : sep ∉ word) (s : List Char) :
    occurrences (sep :: word) s = (fields sep s).tail.countP word.isPrefixOf := by
  induction s with
  | nil => rfl
  | cons c rest ih =>
      obtain ⟨first, others, hrest⟩ := List.exists_cons_of_ne_nil (fields_ne_nil sep rest)
      rw [hrest, List.tail_cons] at ih
      rw [occurrences_cons hword, ih, fields, hrest]
      simp only [prefix_iff_prefix_head hword hrest]
      by_cases hc : c = sep
      · simp [hc, List.countP_cons, List.isPrefixOf_iff_prefix, Nat.add_comm]
      · simp [hc]

end Occurrences

/-- Two words of which neither starts the other start different lines. -/
private theorem countP_isPrefixOf_add {word other : List Char} (h : ¬word <+: other)
    (h' : ¬other <+: word) (lines : List (List Char)) :
    lines.countP word.isPrefixOf + lines.countP other.isPrefixOf =
      lines.countP fun line => word.isPrefixOf line || other.isPrefixOf line := by
  induction lines with
  | nil => rfl
  | cons line lines ih =>
      have hline : ¬(word <+: line ∧ other <+: line) := by
        rintro ⟨hword, hother⟩
        rcases List.prefix_or_prefix_of_prefix hword hother with hprefix | hprefix
        · exact h hprefix
        · exact h' hprefix
      simp only [List.countP_cons, ← ih]
      by_cases hword : word <+: line <;> by_cases hother : other <+: line <;>
        simp_all [← List.isPrefixOf_iff_prefix] <;> omega

end Text

namespace Summary

open CodeIndex.Text

/-- Functions of a Python file are counted by the lines that start with their first word, and so are
classes; the first line is not counted. -/
theorem definitions_are_counted_by_lines (content : List Char) :
    let style : Style := Style.ofLanguage (some "python")
    let lines := (fields '\n' content).tail
    definitions style .function content =
        lines.countP (fun line =>
          "def ".toList.isPrefixOf line || "async def ".toList.isPrefixOf line) ∧
      definitions style .classDef content = lines.countP "class ".toList.isPrefixOf := by
  intro style lines
  constructor
  · have hplain : occurrences ('\n' :: "def ".toList) content =
        lines.countP "def ".toList.isPrefixOf :=
      occurrences_eq_countP_fields (by decide) content
    have hasync : occurrences ('\n' :: "async def ".toList) content =
        lines.countP "async def ".toList.isPrefixOf :=
      occurrences_eq_countP_fields (by decide) content
    rw [← countP_isPrefixOf_add (by decide) (by decide), ← hplain, ← hasync]
    rfl
  · exact occurrences_eq_countP_fields (by decide) content

example : definitions .python .function "def f():\ndef g():\n def h():".toList = 1 := by
  decide

end Summary

end CodeIndex
