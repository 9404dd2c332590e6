import CodeIndex.Proofs.Lines
import CodeIndex.Proofs.Transaction
import CodeIndex.Summary.Basic

/-!
Every file in a named language has a summary, and the summary says something.

An import is read off the second word of a trimmed line, and only a line without one makes a summary
fail. There is none: lines are trimmed and cut into words by the same class of blanks, so behind a
keyword and a blank a trimmed line has a character that is no blank, and that belongs to a further
word. The other helpers take the first or the last piece of a text that is cut by a pattern, and
there is always one.
-/

namespace CodeIndex

namespace Text

/-! ### Words -/

section Words

variable {s t : List Char} {b : Char}

private theorem wordsFrom_append_cons (hb : isBlank b = true) (word s t : List Char) :
    wordsFrom word (s ++ b :: t) = wordsFrom word s ++ words t := by
  induction s generalizing word with
  | nil => cases word <;> simp [wordsFrom, hb, words]
  | cons c s ih =>
      rw [List.cons_append, wordsFrom, wordsFrom]
      cases isBlank c <;> cases word <;> simp [ih]

/-- A blank stands between words. -/
private theorem words_append_cons (hb : isBlank b = true) (s t : List Char) :
    words (s ++ b :: t) = words s ++ words t :=
  wordsFrom_append_cons hb [] s t

private theorem wordsFrom_eq_nil_iff {word : List Char} :
    wordsFrom word s = [] ↔ word = [] ∧ s.all isBlank = true := by
  induction s generalizing word with
  | nil => simp [wordsFrom]
  | cons c s ih => cases hc : isBlank c <;> cases word <;> simp [wordsFrom, hc, ih]

/-- Only blanks make up no word. -/
private theorem words_eq_nil_iff : words s = [] ↔ s.all isBlank = true := by
  rw [words, wordsFrom_eq_nil_iff, and_iff_right rfl]

/-- Behind a blank, a trimmed text goes on with something else than blanks. -/
private theorem all_isBlank_of_trim {line : List Char} (h : trim line = s ++ b :: t)
    (hb : isBlank b = true) : t.all isBlank = false := by
  have hlast : (s ++ b :: t).getLast?.any isBlank = false :=
    h ▸ getLast?_dropEndWhile (line.dropWhile isBlank)
  rw [← Bool.not_eq_true]
  intro hblank
  -- The text ends in a character from the blank on, and all of these would be blanks.
  have hall : (b :: t).all isBlank = true := by simp [hb, hblank]
  have hend := List.getLast_mem (List.cons_ne_nil b t)
  rw [List.getLast?_append, List.getLast?_eq_some_getLast (List.cons_ne_nil b t),
    Option.some_or, Option.any_some, List.all_eq_true.mp hall _ hend] at hlast
  cases hlast

/-- A trimmed line that starts with a word and a space has a second word. -/
private theorem words_trim_of_prefix {keyword line : List Char}
    (hkeyword : words keyword = [keyword]) (h : keyword ++ [' '] <+: trim line) :
    ∃ name rest, words (trim line) = keyword :: name :: rest := by
  obtain ⟨behind, hline⟩ := h
  rw [List.append_assoc, List.singleton_append] at hline
  have hsome : words behind ≠ [] := by
    rw [Ne, words_eq_nil_iff, all_isBlank_of_trim hline.symm rfl]
    exact Bool.false_ne_true
  obtain ⟨name, rest, hwords⟩ := List.exists_cons_of_ne_nil hsome
  refine ⟨name, rest, ?_⟩
  rw [← hline, words_append_cons rfl, hkeyword, hwords]
  rfl

end Words

/-! ### Pieces -/

section Pieces

variable {pattern s : List Char}

private theorem before_cons {c : Char} (h : ¬pattern <+: c :: s) :
    before pattern (c :: s) = c :: before pattern s := by
  have hhere : pattern.isPrefixOf (c :: s) = false := by
    rwa [← Bool.not_eq_true, List.isPrefixOf_iff_prefix]
  rw [before, before, find?, hhere]
  cases find? pattern s <;> rfl

private theorem head?_piecesFrom (pattern piece s : List Char) :
    (piecesFrom pattern 0 piece s).head? = some (piece.reverse ++ before pattern s) := by
  induction s generalizing piece with
  | nil =>
      rw [piecesFrom, before]
      cases find? pattern [] <;> simp
  | cons c s ih =>
      rw [piecesFrom]
      by_cases h : pattern <+: c :: s
      · have hhere := List.isPrefixOf_iff_prefix.mpr h
        simp [before, find?, hhere]
      · rw [if_neg (by rwa [List.isPrefixOf_iff_prefix]), ih, before_cons h]
        simp

private theorem piecesFrom_ne_nil (pattern : List Char) (skip : Nat) (piece s : List Char) :
    piecesFrom pattern skip piece s ≠ [] := by
  induction s generalizing skip piece with
  | nil => simp [piecesFrom]
  | cons c s ih =>
      cases skip with
      | zero =>
          rw [piecesFrom]
          split
          · simp
          · exact ih 0 (c :: piece)
      | succ skip => exact ih skip piece

private theorem getLast?_piecesFrom (pattern s : List Char) :
    (piecesFrom pattern 0 [] s).getLast? = some (afterLast pattern s) := by
  rw [afterLast, List.getLast?_eq_some_getLast (piecesFrom_ne_nil pattern 0 [] s),
    Option.getD_some]

end Pieces

/-- Texts of which none is empty do not make an empty one. -/
private theorem joinStrings_ne_empty {parts : List String} (hparts : parts ≠ []) (h : "" ∉ parts)
    (sep : String) : joinStrings sep parts ≠ "" := by
  cases parts with
  | nil => exact absurd rfl hparts
  | cons first rest =>
      have hfirst : first ≠ "" := fun hempty => h (hempty ▸ List.mem_cons_self)
      cases rest <;> simp [joinStrings, hfirst]

end Text

namespace Summary

open CodeIndex.Text

/-! ### Imports -/

section Imports

variable {line : List Char}

/-- A trimmed line that starts like an import names a module. -/
private theorem pythonImport?_of_prefix (keyword : String) (hkeyword : keyword ∈ ["import", "from"])
    (h : keyword.toList ++ [' '] <+: trim line) :
    ∃ name rest, words (trim line) = keyword.toList :: name :: rest ∧
      pythonImport? (trim line) = .ok (some (before ['.'] name)) := by
  simp only [List.mem_cons, List.not_mem_nil, or_false] at hkeyword
  have hword : words keyword.toList = [keyword.toList] := by
    rcases hkeyword with rfl | rfl <;> rfl
  obtain ⟨name, rest, hwords⟩ := words_trim_of_prefix hword h
  refine ⟨name, rest, hwords, ?_⟩
  obtain ⟨behind, hline⟩ := h
  rw [pythonImport?, hwords, ← hline]
  rcases hkeyword with rfl | rfl <;> rfl

private theorem exists_pythonImport?_eq_ok (line : List Char) :
    ∃ name, pythonImport? (trim line) = .ok name := by
  by_cases himport : "import ".toList <+: trim line
  · obtain ⟨name, -, -, hname⟩ := pythonImport?_of_prefix "import" (by simp) himport
    exact ⟨_, hname⟩
  · by_cases hfrom : "from ".toList <+: trim line
    · obtain ⟨name, -, -, hname⟩ := pythonImport?_of_prefix "from" (by simp) hfrom
      exact ⟨_, hname⟩
    · rw [← List.isPrefixOf_iff_prefix] at himport hfrom
      exact ⟨none, by rw [pythonImport?, if_neg himport, if_neg hfrom]⟩

/-- The imports of a file are found whatever its lines. -/
private theorem exists_imports_eq_ok (order : SetOrder) (style : Style) (lines : List (List Char)) :
    ∃ names, imports order style lines = .ok names := by
  cases style with
  | python =>
      obtain ⟨found, hfound⟩ := exists_mapM_eq_ok_iff.mpr
        fun line (_ : line ∈ lines) => exists_pythonImport?_eq_ok line
      exact ⟨_, by rw [imports, hfound]; rfl⟩
  | script | other => exact ⟨_, rfl⟩

end Imports

/-! ### Sentences -/

private theorem empty_not_mem_sentences (doc : Option String) (classes functions : Nat)
    (imports : List String) : "" ∉ sentences doc classes functions imports := by
  simp only [sentences, List.mem_append, not_or]
  refine ⟨⟨⟨?_, ?_⟩, ?_⟩, ?_⟩
  · cases doc with
    | none => simp
    | some doc => split <;> simp_all
  all_goals split <;> simp

/-- The summary of a file whose imports are found: its sentences, or else the name of its
language. -/
theorem ofFile_of_imports {order : SetOrder} {content : List Char} {language : String}
    {names : List String}
    (h : imports order (Style.ofLanguage (some language)) (fields '\n' content) = .ok names) :
    let style := Style.ofLanguage (some language)
    let parts := sentences ((doc? style (fields '\n' content)).map String.ofList)
      (definitions style .classDef content) (definitions style .function content) names
    ofFile order content (some language) =
      .ok (if parts.isEmpty then capitalize language ++ " module" else joinStrings ". " parts) := by
  simp only [ofFile, h]
  split <;> rfl

private theorem exists_ofFile_eq_ok (order : SetOrder) (content : List Char) (language : String) :
    ∃ text, ofFile order content (some language) = .ok text ∧ text ≠ "" := by
  obtain ⟨names, hnames⟩ :=
    exists_imports_eq_ok order (Style.ofLanguage (some language)) (fields '\n' content)
  refine ⟨_, ofFile_of_imports hnames, ?_⟩
  split
  next => simp
  next hsome =>
    exact joinStrings_ne_empty (by simpa using hsome) (empty_not_mem_sentences _ _ _ _) ". "

/-- Whether a file has a summary does not hang on the order of its imports. -/
theorem exists_ofFile_of_order {order : SetOrder} {content : List Char} {language : Option String}
    {text : String} (h : ofFile order content language = .ok text) (other : SetOrder) :
    ∃ text, ofFile other content language = .ok text := by
  cases language with
  | some name =>
      obtain ⟨text, htext, -⟩ := exists_ofFile_eq_ok other content name
      exact ⟨text, htext⟩
  | none => simp [ofFile, Style.ofLanguage, imports, doc?, definitions, sentences, Except.map] at h

/-- Every file has a summary under every name of a language, also under the empty one, and no
summary is empty. A trimmed line that starts with a word for imports and a space has a second word,
of which the module is taken, and a text that is cut by a pattern has a first and a last piece. -/
theorem every_file_has_summary (order : SetOrder) (content : List Char) (language : String) :
    (∃ text, ofFile order content (some language) = .ok text ∧ text ≠ "") ∧
    (∀ line, ∀ keyword ∈ ["import", "from"], keyword.toList ++ [' '] <+: trim line →
      ∃ name rest, words (trim line) = keyword.toList :: name :: rest ∧
        pythonImport? (trim line) = .ok (some (before ['.'] name))) ∧
    ∀ pattern line,
      (piecesFrom pattern 0 [] line).head? = some (before pattern line) ∧
        (piecesFrom pattern 0 [] line).getLast? = some (afterLast pattern line) := by
  refine ⟨exists_ofFile_eq_ok order content language, ?_, ?_⟩
  · exact fun line => pythonImport?_of_prefix
  · exact fun pattern line => ⟨head?_piecesFrom pattern [] line, getLast?_piecesFrom pattern line⟩

/-- Blanks beyond ASCII stand around the line and in front of the module. -/
theorem import_between_wide_blanks_is_summarized :
    let line := "\u3000import \u00a0os.path\u2028".toList
    "import".toList ++ [' '] <+: trim line ∧
      (∃ name rest, words (trim line) = "import".toList :: name :: rest ∧
        pythonImport? (trim line) = .ok (some (before ['.'] name))) ∧
      ∃ text, ofFile .ascending line (some "python") = .ok text ∧ text ≠ "" := by
  intro line
  have hstart : "import".toList ++ [' '] <+: trim line := by decide
  obtain ⟨htext, hname, -⟩ := every_file_has_summary .ascending line "python"
  exact ⟨hstart, hname line "import" (by simp) hstart, htext⟩

end Summary

end CodeIndex
