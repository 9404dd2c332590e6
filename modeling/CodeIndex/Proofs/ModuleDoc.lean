import CodeIndex.Proofs.ChunkLines
import CodeIndex.Summary.Basic
import Mathlib.Data.List.TakeWhile

/-!
The text in triple quotes at the top of a Python file, and what its summary takes for it.

The quotes that close the text are looked for from the second line on. If they stand there, the text
between the quotes is found. If they stand on the line of the opening ones they are erased with
these, and the search goes on through the code below, up to the next quotes or for nineteen lines.
So a text on one line is found only where that yields nothing but blanks, or where the text alone
is as long as a summary takes it.
-/

namespace CodeIndex

namespace Text

def IsFirst (pattern before after : List Char) : Prop :=
  ∀ earlier later, before ++ pattern ++ after = earlier ++ pattern ++ later →
    before.length ≤ earlier.length

section Pattern

variable {pattern before after s : List Char}

private theorem find?_of_isFirst (h : IsFirst pattern before after) :
    find? pattern (before ++ pattern ++ after) = some before.length := by
  have hhere : pattern <+: (before ++ pattern ++ after).drop before.length := by
    rw [List.append_assoc, List.drop_left]
    exact ⟨after, rfl⟩
  obtain ⟨i, hi⟩ := exists_find?_eq_some hhere
  obtain ⟨⟨later, hlater⟩, hleast⟩ := find?_least hi
  have hle : i ≤ before.length := hleast _ hhere
  have hcut : before ++ pattern ++ after =
      (before ++ pattern ++ after).take i ++ pattern ++ later := by
    rw [List.append_assoc _ pattern later, hlater, List.take_append_drop]
  have hge := h _ _ hcut
  rw [List.length_take] at hge
  rw [hi]
  congr 1
  omega

private theorem isFirst_of_find?
    (h : find? pattern (before ++ pattern ++ after) = some before.length) :
    IsFirst pattern before after := by
  intro earlier later heq
  refine (find?_least h).2 _ ?_
  rw [heq, List.append_assoc, List.drop_left]
  exact ⟨later, rfl⟩

private theorem contains_iff_infix : contains pattern s = true ↔ pattern <:+: s := by
  rw [contains, Option.isSome_iff_exists]
  constructor
  · rintro ⟨i, hi⟩
    exact (find?_least hi).1.isInfix.trans (List.drop_suffix i s).isInfix
  · rintro ⟨before, after, rfl⟩
    refine exists_find?_eq_some (j := before.length) ?_
    rw [List.append_assoc, List.drop_left]
    exact ⟨after, rfl⟩

private theorem IsFirst.of_cons {c : Char} (h : IsFirst pattern (c :: before) after) :
    IsFirst pattern before after := by
  intro earlier later heq
  have hle := h (c :: earlier) later (by simpa using heq)
  simpa using hle

private theorem IsFirst.of_append {lead : List Char} (h : IsFirst pattern (lead ++ before) after) :
    IsFirst pattern before after := by
  induction lead with
  | nil => exact h
  | cons c lead ih => exact ih h.of_cons

private theorem IsFirst.of_prefix {more : List Char} (h : IsFirst pattern before (after ++ more)) :
    IsFirst pattern before after := by
  intro earlier later heq
  refine h earlier (later ++ more) ?_
  rw [← List.append_assoc, heq, List.append_assoc]

/-- Nothing in front of the first occurrence holds another. -/
private theorem IsFirst.not_infix {lead : List Char} (hne : pattern ≠ [])
    (h : IsFirst pattern (lead ++ before) after) : ¬pattern <:+: lead := by
  rintro ⟨earlier, later, rfl⟩
  have hle := h earlier (later ++ (before ++ (pattern ++ after))) (by simp)
  have hpos := List.length_pos_iff.mpr hne
  simp only [List.length_append] at hle
  omega

private theorem eraseFrom_append (s : List Char) : ∀ erased : List Char,
    eraseFrom pattern erased.length (erased ++ s) = erase pattern s
  | [] => rfl
  | _ :: erased => eraseFrom_append s erased

/-- An occurrence at the start is erased. -/
private theorem erase_append_self (hne : pattern ≠ []) (s : List Char) :
    erase pattern (pattern ++ s) = erase pattern s := by
  obtain ⟨c, rest, rfl⟩ := List.exists_cons_of_ne_nil hne
  have hhere : (c :: rest).isPrefixOf (c :: (rest ++ s)) = true :=
    List.isPrefixOf_iff_prefix.mpr ⟨s, rfl⟩
  rw [List.cons_append, erase, eraseFrom, if_pos hhere]
  exact eraseFrom_append s rest

private theorem erase_cons {c : Char} (h : ¬pattern <+: c :: s) :
    erase pattern (c :: s) = c :: erase pattern s := by
  rw [erase, eraseFrom, if_neg (by rwa [List.isPrefixOf_iff_prefix])]
  rfl

private theorem erase_eq_self (h : ¬pattern <:+: s) : erase pattern s = s := by
  induction s with
  | nil => rfl
  | cons c s ih =>
      rw [List.infix_cons_iff, not_or] at h
      rw [erase_cons h.1, ih h.2]

/-- What stands in front of the first occurrence is not touched. -/
private theorem erase_of_isFirst (hne : pattern ≠ []) (h : IsFirst pattern before after) :
    erase pattern (before ++ pattern ++ after) = before ++ erase pattern after := by
  induction before with
  | nil => exact erase_append_self hne after
  | cons c before ih =>
      have hhere : ¬pattern <+: c :: (before ++ pattern ++ after) := by
        rintro ⟨later, hlater⟩
        have hle := h [] later hlater.symm
        simp at hle
      rw [List.cons_append, List.cons_append, erase_cons hhere, ih h.of_cons]
      rfl

end Pattern

/-! ### Trimming -/

section Trim

variable {s t : List Char}

private theorem all_dropWhile (p : Char → Bool) (s : List Char) :
    (s.dropWhile p).all p = s.all p := by
  induction s with
  | nil => rfl
  | cons c s ih => cases hc : p c <;> simp [hc, ih]

private theorem trimEnd_append {c : Char} (hlast : s.getLast? = some c) (hc : isBlank c = false)
    (t : List Char) : trimEnd (s ++ t) = s ++ trimEnd t := by
  unfold trimEnd
  rw [dropEndWhile_append]
  split
  · next hempty =>
      rw [dropEndWhile_eq_self_iff.mpr (by simp [hlast, hc]), List.isEmpty_iff.mp hempty,
        List.append_nil]
  · rfl

private theorem trim_append_cons {c : Char} (hblank : s.all isBlank = true) (hc : isBlank c = false)
    (t : List Char) : trim (s ++ c :: t) = trimEnd (c :: t) := by
  unfold trim trimWhile trimEnd
  rw [List.dropWhile_append_of_pos (by simpa using hblank),
    List.dropWhile_cons_of_neg (by simp [hc])]

/-- Behind a text that is not blank, the blanks at the end of the one before it are kept. -/
private theorem exists_trim_append (s : List Char) (h : t.all isBlank = false) :
    ∃ more, more ≠ [] ∧ trim (s ++ t) = trim s ++ more := by
  have hend : dropEndWhile isBlank t ≠ [] := by
    rw [dropEndWhile_eq_rdropWhile, Ne, List.rdropWhile_eq_nil_iff, ← List.all_eq_true, h]
    simp
  unfold trim trimWhile
  rw [List.dropWhile_append]
  split
  · next hempty =>
      refine ⟨dropEndWhile isBlank (t.dropWhile isBlank), ?_, ?_⟩
      · rw [dropEndWhile_eq_rdropWhile, Ne, List.rdropWhile_eq_nil_iff, ← List.all_eq_true,
          all_dropWhile, h]
        simp
      · rw [List.isEmpty_iff.mp hempty]
        rfl
  · obtain ⟨dropped, -, hdropped⟩ := exists_eq_dropEndWhile_append isBlank (s.dropWhile isBlank)
    refine ⟨dropped ++ dropEndWhile isBlank t, by simp [hend], ?_⟩
    rw [dropEndWhile_append, if_neg (by simpa using hend), ← List.append_assoc, ← hdropped]

/-- Text behind a text does not show if it is blank, or if the text alone is as long as it is
taken. -/
private theorem take_trim_append_iff (s t : List Char) (n : Nat) :
    (trim (s ++ t)).take n = (trim s).take n ↔ n ≤ (trim s).length ∨ t.all isBlank = true := by
  cases hblank : t.all isBlank with
  | true => simp [trim_append_of_blank s (List.all_eq_true.mp hblank)]
  | false =>
      obtain ⟨more, hmore, htrim⟩ := exists_trim_append s hblank
      have hlength := List.length_pos_iff.mpr hmore
      rw [htrim]
      constructor
      · intro heq
        have hsame := congrArg List.length heq
        simp only [List.length_take, List.length_append] at hsame
        exact .inl (by omega)
      · rintro (hlong | hfalse)
        · exact List.take_append_of_le_length hlong
        · cases hfalse

end Trim

section Join

private theorem join_append_cons {α : Type} (sep a b : List α) (pieces : List (List α)) :
    join sep ((a ++ b) :: pieces) = a ++ join sep (b :: pieces) := by
  cases pieces <;> simp [join]

end Join

end Text

namespace Summary

open CodeIndex.Text

/-! ### The lines up to the quotes -/

/-- The first line of a text goes on from what stands in front of it, and the other lines stay. -/
private theorem exists_first_line (s : List Char) :
    ∃ line more rest, s = line ++ more ∧
      ∀ lead, '\n' ∉ lead → fields '\n' (lead ++ s) = (lead ++ line) :: rest := by
  by_cases hbreak : '\n' ∈ s
  · obtain ⟨line, others, rfl, hline⟩ := List.eq_append_cons_of_mem hbreak
    refine ⟨line, '\n' :: others, fields '\n' others, rfl, ?_⟩
    intro lead hlead
    rw [← List.append_assoc, fields_append_sep (by simp [hlead, hline])]
  · refine ⟨s, [], [], (List.append_nil s).symm, ?_⟩
    intro lead hlead
    exact fields_of_not_mem (by simp [hlead, hbreak])

section Lines

variable {quotes inner tail : List Char}

/-- The lines up to the first quotes are those of the text in front of them. -/
private theorem linesUpTo_of_isFirst (hne : quotes ≠ []) (hline : '\n' ∉ quotes) {count : Nat}
    (hcount : inner.count '\n' < count) (h : IsFirst quotes inner tail) :
    linesUpTo quotes ((fields '\n' (inner ++ quotes ++ tail)).take count) = fields '\n' inner := by
  induction count generalizing inner with
  | zero => cases hcount
  | succ count ih =>
      by_cases hbreak : '\n' ∈ inner
      · -- The first line is whole, and the quotes stand on a later one.
        obtain ⟨line, rest, rfl, hfirst⟩ := List.eq_append_cons_of_mem hbreak
        have hnone : contains quotes line = false := by
          rw [← Bool.not_eq_true, contains_iff_infix]
          exact h.not_infix hne
        have hrest : IsFirst quotes rest tail := h.of_append.of_cons
        have hcut : line ++ '\n' :: rest ++ quotes ++ tail =
            line ++ '\n' :: (rest ++ quotes ++ tail) := by simp
        rw [List.count_append, List.count_cons_self] at hcount
        rw [hcut, fields_append_sep hfirst, fields_append_sep hfirst, List.take_succ_cons,
          linesUpTo, hnone, ih (by omega) hrest]
        rfl
      · obtain ⟨line, more, rest, rfl, hfields⟩ := exists_first_line tail
        have hcontains : contains quotes (inner ++ quotes ++ line) = true :=
          contains_iff_infix.mpr ⟨inner, line, rfl⟩
        rw [hfields (inner ++ quotes) (by simp [hbreak, hline]), List.take_succ_cons, linesUpTo,
          if_pos hcontains, before, find?_of_isFirst h.of_prefix, fields_of_not_mem hbreak]
        simp

end Lines

/-! ### Quotations -/

/-- A text that starts with a quotation: three quotes of one kind are the first on its first line
that is not blank, and the next three of that kind stand on one of its first twenty lines. -/
structure IsQuoted (content quotes inner tail : List Char) : Prop where
  triple : quotes = "\"\"\"".toList ∨ quotes = "'''".toList
  text : ∃ lead, lead.all isBlank = true ∧ '\n' ∉ lead ∧
    content = lead ++ quotes ++ inner ++ quotes ++ tail
  first : IsFirst quotes inner tail
  near : inner.count '\n' < 20

/-- The lines of a quotation. Blanks at the end of the first line belong to it only if it is also
the last. -/
def quotedPieces (inner : List Char) : List (List Char) :=
  match fields '\n' inner with
  | first :: second :: rest => trimEnd first :: second :: rest
  | lines => lines

/-- What is read behind quotes that close on the line of the opening ones: the end of the line
without further quotes, and the lines up to the next ones. -/
def readPast (quotes tail : List Char) : List (List Char) :=
  match fields '\n' tail with
  | [] => []
  | line :: rest => erase quotes (trimEnd line) :: linesUpTo quotes (rest.take quotedLines)

section Quotations

variable {content quotes inner tail : List Char}

private theorem IsQuoted.ne_nil (h : IsQuoted content quotes inner tail) : quotes ≠ [] := by
  rcases h.triple with rfl | rfl <;> decide

private theorem IsQuoted.not_mem_quotes (h : IsQuoted content quotes inner tail) :
    '\n' ∉ quotes := by
  rcases h.triple with rfl | rfl <;> decide

private theorem IsQuoted.exists_quote (h : IsQuoted content quotes inner tail) :
    ∃ c, isBlank c = false ∧ quotes = [c, c, c] := by
  rcases h.triple with rfl | rfl
  · exact ⟨'"', by decide, rfl⟩
  · exact ⟨'\'', by decide, rfl⟩

private theorem IsQuoted.trimEnd_quotes_append (h : IsQuoted content quotes inner tail)
    (s t : List Char) :
    trimEnd (s ++ quotes ++ t) = s ++ quotes ++ trimEnd t := by
  obtain ⟨c, hc, rfl⟩ := h.exists_quote
  exact trimEnd_append (by simp) hc t

/-- What is read of a quotation, from the end of its opening line and the lines below that. -/
private theorem IsQuoted.doc?_eq (h : IsQuoted content quotes inner tail) {opened : List Char}
    {rest : List (List Char)}
    (hlines : ∀ lead, '\n' ∉ lead →
      fields '\n' (lead ++ inner ++ quotes ++ tail) = (lead ++ opened) :: rest) :
    doc? .python (fields '\n' content) =
      some (docLine (erase quotes (trimEnd opened) ::
        linesUpTo quotes (rest.take quotedLines))) := by
  obtain ⟨lead, hblank, hlead, rfl⟩ := h.text
  have hline : trim (lead ++ quotes ++ opened) = quotes ++ trimEnd opened := by
    rw [← List.nil_append quotes, ← h.trimEnd_quotes_append, List.nil_append, List.append_assoc]
    obtain ⟨c, hc, rfl⟩ := h.exists_quote
    exact trim_append_cons hblank hc _
  have hopening : openingQuotes? (quotes ++ trimEnd opened) = some quotes := by
    rcases h.triple with rfl | rfl <;> rfl
  rw [hlines (lead ++ quotes) (by simp [hlead, h.not_mem_quotes]), doc?, quotedDoc?, hline,
    hopening]
  simp only [erase_append_self h.ne_nil]

/-- Quotes that close on a later line are found. -/
private theorem IsQuoted.doc?_of_mem (h : IsQuoted content quotes inner tail)
    (hbreak : '\n' ∈ inner) :
    doc? .python (fields '\n' content) = some (docLine (quotedPieces inner)) := by
  obtain ⟨line, later, rfl, hline⟩ := List.eq_append_cons_of_mem hbreak
  have hlines (lead : List Char) (hlead : '\n' ∉ lead) :
      fields '\n' (lead ++ (line ++ '\n' :: later) ++ quotes ++ tail) =
        (lead ++ line) :: fields '\n' (later ++ quotes ++ tail) := by
    have hcut : lead ++ (line ++ '\n' :: later) ++ quotes ++ tail =
        lead ++ line ++ '\n' :: (later ++ quotes ++ tail) := by simp
    rw [hcut, fields_append_sep (by simp [hlead, hline])]
  have hnear : later.count '\n' < quotedLines := by
    have hcount := h.near
    rw [List.count_append, List.count_cons_self] at hcount
    unfold quotedLines
    omega
  have hpieces : quotedPieces (line ++ '\n' :: later) = trimEnd line :: fields '\n' later := by
    obtain ⟨second, others, hlater⟩ := List.exists_cons_of_ne_nil (fields_ne_nil '\n' later)
    rw [quotedPieces, fields_append_sep hline, hlater]
  have hfree : ¬quotes <:+: trimEnd line := by
    obtain ⟨dropped, -, hdropped⟩ := exists_eq_dropEndWhile_append isBlank line
    have hstart : trimEnd line <+: line := ⟨dropped, hdropped.symm⟩
    exact fun hquotes => h.first.not_infix h.ne_nil (hquotes.trans hstart.isInfix)
  rw [h.doc?_eq hlines, erase_eq_self hfree,
    linesUpTo_of_isFirst h.ne_nil h.not_mem_quotes hnear h.first.of_append.of_cons, hpieces]

/-- Quotes that close on the line of the opening ones are erased, and what stands behind them is
read on. -/
private theorem IsQuoted.doc?_of_not_mem (h : IsQuoted content quotes inner tail)
    (hbreak : '\n' ∉ inner) :
    doc? .python (fields '\n' content) =
      some ((trim (inner ++ join [' '] (readPast quotes tail))).take docLength) := by
  obtain ⟨line, more, rest, rfl, hfields⟩ := exists_first_line tail
  have hlines (lead : List Char) (hlead : '\n' ∉ lead) :
      fields '\n' (lead ++ inner ++ quotes ++ (line ++ more)) =
        (lead ++ (inner ++ quotes ++ line)) :: rest := by
    rw [hfields _ (by simp [hlead, h.not_mem_quotes, hbreak])]
    simp
  have hpast : readPast quotes (line ++ more) =
      erase quotes (trimEnd line) :: linesUpTo quotes (rest.take quotedLines) := by
    have hline := hfields [] (by simp)
    rw [List.nil_append, List.nil_append] at hline
    rw [readPast, hline]
  have hfirst : IsFirst quotes inner (trimEnd line) := by
    obtain ⟨dropped, -, hdropped⟩ := exists_eq_dropEndWhile_append isBlank line
    have hwhole := h.first
    rw [hdropped, List.append_assoc] at hwhole
    exact hwhole.of_prefix
  rw [h.doc?_eq hlines, h.trimEnd_quotes_append, erase_of_isFirst h.ne_nil hfirst, docLine,
    join_append_cons, hpast]

/-- The text at the top of a Python file is the one between the quotes, put on one line, if the
quotes close on a later line than they open. If they close on the same line, what stands behind them
is read as well, and the text is that between the quotes only if it is long enough alone or all that
is read behind it is blank. -/
theorem module_doc_is_between_quotes_iff (content quotes inner tail : List Char)
    (h : IsQuoted content quotes inner tail) :
    (doc? .python (fields '\n' content) = some (docLine (quotedPieces inner)) ↔
      '\n' ∈ inner ∨ docLength ≤ (trim inner).length ∨
        ∀ piece ∈ readPast quotes tail, piece.all isBlank = true) ∧
    ('\n' ∉ inner → doc? .python (fields '\n' content) =
      some ((trim (inner ++ join [' '] (readPast quotes tail))).take docLength)) := by
  refine ⟨?_, h.doc?_of_not_mem⟩
  by_cases hbreak : '\n' ∈ inner
  · exact iff_of_true (h.doc?_of_mem hbreak) (.inl hbreak)
  · have hbetween : docLine (quotedPieces inner) = (trim inner).take docLength := by
      rw [quotedPieces, fields_of_not_mem hbreak]
      rfl
    have hblank : (join [' '] (readPast quotes tail)).all isBlank = true ↔
        ∀ piece ∈ readPast quotes tail, piece.all isBlank = true := by
      rw [all_join (by decide), List.all_eq_true]
    rw [h.doc?_of_not_mem hbreak, Option.some.injEq, hbetween, take_trim_append_iff, hblank,
      or_iff_right hbreak]

/-- Quotes of the other kind in a quotation, code behind it on its last line, and another one below
it do not show. A quotation on one line is found where there is nothing below it. -/
theorem module_doc_is_between_quotes_of_two_kinds :
    let content := "  \"\"\"A '''b''' \n c\"\"\";x\n\"\"\"y\"\"\"".toList
    IsQuoted content "\"\"\"".toList "A '''b''' \n c".toList ";x\n\"\"\"y\"\"\"".toList ∧
      doc? .python (fields '\n' content) = some "A '''b'''  c".toList ∧
      IsQuoted "'''D'''\n".toList "'''".toList "D".toList "\n".toList ∧
      doc? .python (fields '\n' "'''D'''\n".toList) = some "D".toList := by
  intro content
  have hlines : IsQuoted content "\"\"\"".toList "A '''b''' \n c".toList
      ";x\n\"\"\"y\"\"\"".toList :=
    ⟨.inl rfl, ⟨"  ".toList, by decide⟩, isFirst_of_find? (by decide), by decide⟩
  have hline : IsQuoted "'''D'''\n".toList "'''".toList "D".toList "\n".toList :=
    ⟨.inr rfl, ⟨[], by decide⟩, isFirst_of_find? (by decide), by decide⟩
  refine ⟨hlines, ?_, hline, ?_⟩
  · exact (module_doc_is_between_quotes_iff _ _ _ _ hlines).1.mpr (.inl (by decide))
  · exact (module_doc_is_between_quotes_iff _ _ _ _ hline).1.mpr (.inr (.inr (by decide)))

/-- The quotation on the first line is `D`, and the code below it is read as well. -/
theorem module_doc_on_one_line_runs_into_code :
    let content := "\"\"\"D\"\"\"\nx".toList
    IsQuoted content "\"\"\"".toList "D".toList "\nx".toList ∧
      docLine (quotedPieces "D".toList) = "D".toList ∧
      doc? .python (fields '\n' content) = some "D x".toList :=
  ⟨⟨.inl rfl, ⟨[], by decide⟩, isFirst_of_find? (by decide), by decide⟩, by decide, by decide⟩

end Quotations

end Summary

end CodeIndex
