import CodeIndex.Text.Like

/-!
Texts that the `LIKE` operator accepts.

`Fits` says which text a pattern stands for, without a search: a per cent sign gives out any run of
characters, a low line one of them, and every other character itself. The search through the endings
of a text finds such a division if there is one.

A pattern between two per cent signs is meant for the texts that contain it. It accepts all of
those that are read to their end, but it accepts no others only if it holds no character that the
operator takes for something else: a wildcard, the NUL character that ends a text, or one of the
three characters that are not told apart.
-/

namespace CodeIndex.Text

/-! ### Patterns -/

def isWildcard (c : Char) : Bool :=
  c == '%' || c == '_'

/-- The pattern stands for the text. -/
inductive Fits : List Char → List Char → Prop where
  | done : Fits [] []
  | run (skipped : List Char) {pattern s : List Char} (rest : Fits pattern s) :
      Fits ('%' :: pattern) (skipped ++ s)
  | one (c : Char) {pattern s : List Char} (rest : Fits pattern s) :
      Fits ('_' :: pattern) (c :: s)
  | same {p c : Char} (plain : isWildcard p = false) (letter : p.toLower = c.toLower)
      {pattern s : List Char} (rest : Fits pattern s) : Fits (p :: pattern) (c :: s)

section Fits

variable {pattern s : List Char} {p c : Char}

private theorem fits_run_iff :
    Fits ('%' :: pattern) s ↔ ∃ ending, ending <:+ s ∧ Fits pattern ending := by
  constructor
  · intro h
    cases h with
    | run skipped rest => exact ⟨_, List.suffix_append skipped _, rest⟩
    | same plain => cases plain
  · rintro ⟨ending, ⟨skipped, rfl⟩, rest⟩
    exact .run skipped rest

private theorem fits_one_iff : Fits ('_' :: pattern) (c :: s) ↔ Fits pattern s := by
  constructor
  · intro h
    cases h with
    | one _ rest => exact rest
    | same plain => cases plain
  · exact .one c

private theorem fits_same_iff (plain : isWildcard p = false) :
    Fits (p :: pattern) (c :: s) ↔ p.toLower = c.toLower ∧ Fits pattern s := by
  constructor
  · intro h
    generalize ht : c :: s = t at h
    cases h with
    | run => cases plain
    | one => cases plain
    | same _ letter rest =>
        cases ht
        exact ⟨letter, rest⟩
  · rintro ⟨letter, rest⟩
    exact .same plain letter rest

/-- Only per cent signs stand for nothing. -/
private theorem not_fits_nil (h : p ≠ '%') : ¬Fits (p :: pattern) [] := by
  intro hfits
  generalize hs : ([] : List Char) = s at hfits
  cases hfits with
  | run => exact h rfl
  | one => cases hs
  | same => cases hs

private theorem mem_endings (s ending : List Char) : ending ∈ endings s ↔ ending <:+ s := by
  induction s with
  | nil => simp [endings]
  | cons c rest ih => simp [endings, ih, List.suffix_cons_iff]

/-- The search decides whether a pattern stands for a text. -/
theorem fits_iff (pattern s : List Char) : fits pattern s = true ↔ Fits pattern s := by
  induction pattern generalizing s with
  | nil =>
      rw [fits, List.isEmpty_iff]
      constructor
      · rintro rfl
        exact .done
      · intro h
        cases h
        rfl
  | cons p pattern ih =>
      unfold fits
      split
      · cases ‹p :: pattern = []›
      · obtain ⟨rfl, rfl⟩ := List.cons.inj ‹p :: pattern = _›
        simp only [List.any_eq_true, mem_endings, fits_run_iff, ih]
      · obtain ⟨rfl, rfl⟩ := List.cons.inj ‹p :: pattern = _›
        simp [not_fits_nil]
      · obtain ⟨rfl, rfl⟩ := List.cons.inj ‹p :: pattern = _›
        rw [ih, fits_one_iff]
      · obtain ⟨rfl, rfl⟩ := List.cons.inj ‹p :: pattern = _›
        simp [not_fits_nil ‹_›]
      · rename_i hrun hone heq
        obtain ⟨rfl, rfl⟩ := List.cons.inj heq
        have plain : isWildcard p = false := by
          simpa [isWildcard] using And.intro hrun hone
        rw [Bool.and_eq_true, ih, fits_same_iff plain, sameLetter, beq_iff_eq]

end Fits

/-! ### Texts that contain another -/

/-- The text contains the query, up to ASCII letter case. -/
def Contains (query s : List Char) : Prop :=
  query.map Char.toLower <:+: s.map Char.toLower

section Contains

variable {query pattern found s : List Char}

theorem contains_iff : Contains query s ↔
    ∃ before found after, s = before ++ found ++ after ∧
      found.map Char.toLower = query.map Char.toLower := by
  constructor
  · rintro ⟨before, after, h⟩
    obtain ⟨front, back, rfl, hfront, -⟩ := List.map_eq_append_iff.mp h.symm
    obtain ⟨start, found, rfl, -, hfound⟩ := List.map_eq_append_iff.mp hfront
    exact ⟨start, found, back, rfl, hfound⟩
  · rintro ⟨before, found, after, rfl, hfound⟩
    refine ⟨before.map Char.toLower, after.map Char.toLower, ?_⟩
    rw [List.map_append, List.map_append, hfound]

/-- A character stands for one that it is like, whether it is a wildcard or not. -/
theorem Fits.letter {p c : Char} (h : p.toLower = c.toLower) (rest : Fits pattern s) :
    Fits (p :: pattern) (c :: s) := by
  by_cases hrun : p = '%'
  · subst hrun
    exact .run [c] rest
  by_cases hone : p = '_'
  · subst hone
    exact .one c rest
  · exact .same (by simp [isWildcard, hrun, hone]) h rest

private theorem Fits.literal (h : found.map Char.toLower = query.map Char.toLower)
    (rest : Fits pattern s) : Fits (query ++ pattern) (found ++ s) := by
  induction query generalizing found with
  | nil =>
      obtain rfl : found = [] := by simpa using h
      exact rest
  | cons p query ih =>
      obtain ⟨c, found, rfl, hc, hfound⟩ := List.map_eq_cons_iff.mp h
      exact .letter hc.symm (ih hfound)

private theorem fits_end (s : List Char) : Fits ['%'] s := by
  simpa using Fits.run s .done

private theorem fits_of_contains (h : Contains query s) : Fits (occursPattern query) s := by
  obtain ⟨before, found, after, rfl, hfound⟩ := contains_iff.mp h
  rw [List.append_assoc]
  exact .run before (.literal hfound (fits_end after))

/-- What a pattern without wildcards gives out before a per cent sign is the pattern itself. -/
private theorem exists_of_fits_literal (hplain : ∀ c ∈ query, isWildcard c = false)
    (h : Fits (query ++ ['%']) s) :
    ∃ found after, s = found ++ after ∧ found.map Char.toLower = query.map Char.toLower := by
  induction query generalizing s with
  | nil => exact ⟨[], s, rfl, rfl⟩
  | cons p query ih =>
      obtain ⟨hp, hquery⟩ := List.forall_mem_cons.mp hplain
      cases s with
      | nil => exact absurd h (not_fits_nil (by rintro rfl; cases hp))
      | cons c s =>
          obtain ⟨hletter, hrest⟩ := (fits_same_iff hp).mp h
          obtain ⟨found, after, rfl, hfound⟩ := ih hquery hrest
          exact ⟨c :: found, after, rfl, by rw [List.map_cons, List.map_cons, hfound, hletter]⟩

private theorem contains_of_fits (hplain : ∀ c ∈ query, isWildcard c = false)
    (h : Fits (occursPattern query) s) : Contains query s := by
  obtain ⟨ending, ⟨before, rfl⟩, hending⟩ := fits_run_iff.mp h
  obtain ⟨found, after, rfl, hfound⟩ := exists_of_fits_literal hplain hending
  exact contains_iff.mpr ⟨before, found, after, by rw [List.append_assoc], hfound⟩

end Contains

/-! ### Texts as they are read -/

def isBlurred (c : Char) : Bool :=
  c == '\ufffd' || c == '\ufffe' || c == '\uffff'

def isSpecial (c : Char) : Bool :=
  isWildcard c || c == '\x00' || isBlurred c

section Read

variable {query found s : List Char} {c d : Char}

/-- Only letters have another case. -/
private theorem toLower_eq_iff (hd : d.isAlpha = false) : c.toLower = d ↔ c = d := by
  have hletter : ¬(65 ≤ d.val ∧ d.val ≤ 90) ∧ ¬(97 ≤ d.val ∧ d.val ≤ 122) := by
    obtain ⟨hupper, hlower⟩ : d.isUpper = false ∧ d.isLower = false := Bool.or_eq_false_iff.mp hd
    refine ⟨fun h => ?_, fun h => ?_⟩
    · exact Bool.false_ne_true (hupper.symm.trans (decide_eq_true h))
    · have hbounds := Bool.and_eq_true_iff.mpr ⟨decide_eq_true h.1, decide_eq_true h.2⟩
      exact Bool.false_ne_true (hlower.symm.trans hbounds)
  unfold Char.toLower
  split
  · rename_i hupper
    obtain ⟨hfirst, hlast⟩ : 65 ≤ c.val ∧ c.val ≤ 90 := hupper
    constructor
    · rintro rfl
      refine absurd ?_ hletter.2
      change 97 ≤ c.val + 32 ∧ c.val + 32 ≤ 122
      simp only [UInt32.le_iff_toNat_le, UInt32.toNat_add, UInt32.reduceToNat] at hfirst hlast ⊢
      omega
    · rintro rfl
      exact absurd ⟨hfirst, hlast⟩ hletter.1
  · rfl

private theorem isBlurred_toLower (c : Char) : isBlurred c.toLower = isBlurred c := by
  rw [Bool.eq_iff_iff]
  simp only [isBlurred, Bool.or_eq_true, beq_iff_eq]
  rw [toLower_eq_iff rfl, toLower_eq_iff rfl, toLower_eq_iff rfl]

private theorem toLower_readChar (c : Char) : (readChar c).toLower = readChar c.toLower := by
  by_cases hread : c = '\ufffe' ∨ c = '\uffff'
  · rcases hread with rfl | rfl <;> rfl
  · have hlower : ¬(c.toLower = '\ufffe' ∨ c.toLower = '\uffff') := by
      rwa [toLower_eq_iff rfl, toLower_eq_iff rfl]
    simp only [readChar, Bool.or_eq_true, beq_iff_eq, if_neg hread, if_neg hlower]

private theorem map_toLower_readChar (s : List Char) :
    (s.map readChar).map Char.toLower = (s.map Char.toLower).map readChar := by
  simp only [List.map_map]
  exact List.map_congr_left fun c _ => toLower_readChar c

/-- A character that is not read as one of the blurred ones is read as it is. -/
private theorem readChar_eq_self (h : isBlurred (readChar c) = false) : readChar c = c := by
  unfold readChar at h ⊢
  split
  · rw [if_pos ‹_›] at h
    cases h
  · rfl

private theorem readChar_of_not_blurred (h : isBlurred c = false) : readChar c = c := by
  simp only [isBlurred, Bool.or_eq_false_iff] at h
  simp [readChar, h]

private theorem map_readChar_eq_self (h : ∀ c ∈ s, readChar c = c) : s.map readChar = s :=
  (List.map_congr_left h).trans (List.map_id' s)

private theorem readText_append (hs : '\x00' ∉ s) (rest : List Char) :
    readText (s ++ rest) = s.map readChar ++ readText rest := by
  have hread : ∀ c ∈ s, (c != '\x00') = true := by
    intro c member
    exact bne_iff_ne.mpr fun h => hs (h ▸ member)
  rw [readText, List.takeWhile_append_of_pos hread, List.map_append]
  rfl

private theorem readText_eq (hs : '\x00' ∉ s) : readText s = s.map readChar := by
  simpa [readText] using readText_append hs []

private theorem readText_occursPattern (hquery : '\x00' ∉ query) :
    readText (occursPattern query) = occursPattern (query.map readChar) := by
  have hstart : '\x00' ∉ '%' :: query := by simp [hquery]
  rw [occursPattern, readText_append hstart]
  rfl

/-- A text is only part of texts that hold its end. -/
theorem Contains.nul_not_mem (h : Contains query s) (hs : '\x00' ∉ s) : '\x00' ∉ query := by
  intro hquery
  have hlower : '\x00' ∈ query.map Char.toLower := List.mem_map.mpr ⟨_, hquery, rfl⟩
  obtain ⟨c, member, hc⟩ := List.mem_map.mp (h.subset hlower)
  rw [toLower_eq_iff rfl] at hc
  exact hs (hc ▸ member)

private theorem Contains.read (h : Contains query s) :
    Contains (query.map readChar) (s.map readChar) := by
  unfold Contains
  rw [map_toLower_readChar, map_toLower_readChar]
  exact List.IsInfix.map readChar h

/-- A text that is read to its end is like the pattern around a query that it contains. -/
theorem like_of_contains (hs : '\x00' ∉ s) (h : Contains query s) :
    like (occursPattern query) s = true := by
  rw [like, fits_iff, readText_occursPattern (h.nul_not_mem hs), readText_eq hs]
  exact fits_of_contains h.read

/-- A text without blurred characters is only read where it stands. -/
private theorem map_toLower_of_read (hblurred : ∀ c ∈ query, isBlurred c = false)
    (h : (found.map readChar).map Char.toLower = query.map Char.toLower) :
    found.map Char.toLower = query.map Char.toLower := by
  rw [map_toLower_readChar] at h
  have hself : (found.map Char.toLower).map readChar = found.map Char.toLower := by
    refine map_readChar_eq_self fun c member => readChar_eq_self ?_
    have hread : readChar c ∈ query.map Char.toLower := h ▸ List.mem_map_of_mem member
    obtain ⟨q, hq, heq⟩ := List.mem_map.mp hread
    rw [← heq, isBlurred_toLower, hblurred q hq]
  rw [← h, hself]

private theorem Contains.of_read (hblurred : ∀ c ∈ query, isBlurred c = false)
    (h : Contains query (s.map readChar)) : Contains query s := by
  obtain ⟨before, read, after, hs, hread⟩ := contains_iff.mp h
  obtain ⟨front, back, rfl, hfront, -⟩ := List.map_eq_append_iff.mp hs
  obtain ⟨start, found, rfl, -, rfl⟩ := List.map_eq_append_iff.mp hfront
  exact contains_iff.mpr ⟨start, found, back, rfl, map_toLower_of_read hblurred hread⟩

theorem contains_of_like (hquery : ∀ c ∈ query, isSpecial c = false) (hs : '\x00' ∉ s)
    (h : like (occursPattern query) s = true) : Contains query s := by
  simp only [isSpecial, Bool.or_eq_false_iff] at hquery
  have hnul : '\x00' ∉ query := by
    intro member
    exact absurd (hquery _ member).1.2 (by decide)
  have hself : query.map readChar = query :=
    map_readChar_eq_self fun c member => readChar_of_not_blurred (hquery c member).2
  rw [like, fits_iff, readText_occursPattern hnul, readText_eq hs, hself] at h
  exact (contains_of_fits (fun c member => (hquery c member).1.1) h).of_read
    fun c member => (hquery c member).2

/-! ### Texts that a query is mistaken for -/

/-- Another character that the operator accepts for the one of a pattern, if there is one. -/
def disguise (c : Char) : Char :=
  if isWildcard c then '-'
  else if c == '\ufffd' then '\ufffe'
  else if isBlurred c then '\ufffd'
  else c

private theorem readChar_disguise (h : isWildcard c = false) :
    readChar (disguise c) = readChar c := by
  unfold disguise
  rw [h, if_neg Bool.false_ne_true]
  split
  · obtain rfl : c = '\ufffd' := beq_iff_eq.mp ‹_›
    rfl
  · split
    · rename_i hother hblurred
      have hread : c = '\ufffe' ∨ c = '\uffff' := by simpa [isBlurred, hother] using hblurred
      rcases hread with rfl | rfl <;> rfl
    · rfl

private theorem disguise_ne_nul (h : c ≠ '\x00') : disguise c ≠ '\x00' := by
  unfold disguise
  split
  · decide
  · split
    · decide
    · split
      · decide
      · exact h

private theorem toLower_disguise_ne (h : isWildcard c = true ∨ isBlurred c = true) :
    (disguise c).toLower ≠ c.toLower := by
  simp only [isWildcard, isBlurred, Bool.or_eq_true, beq_iff_eq] at h
  rcases h with (rfl | rfl) | (rfl | rfl) | rfl <;> decide

private theorem fits_disguise (query : List Char) :
    Fits (query.map readChar ++ ['%']) ((query.map disguise).map readChar) := by
  induction query with
  | nil => exact fits_end []
  | cons c query ih =>
      by_cases hrun : c = '%'
      · subst hrun
        exact .run [_] ih
      by_cases hone : c = '_'
      · subst hone
        exact .one _ ih
      · have plain : isWildcard c = false := by simp [isWildcard, hrun, hone]
        exact .letter (congrArg Char.toLower (readChar_disguise plain).symm) ih

/-- A text of the same length is contained only if it is the same. -/
private theorem not_contains_disguise (h : ∃ c ∈ query, isWildcard c = true ∨ isBlurred c = true) :
    ¬Contains query (query.map disguise) := by
  intro hcontains
  obtain ⟨c, member, hc⟩ := h
  have hsame := List.IsInfix.eq_of_length hcontains (by simp)
  rw [List.map_map, List.map_inj_left] at hsame
  exact toLower_disguise_ne hc (hsame c member).symm

/-- A query with a special character is found in a text that does not contain it. -/
theorem exists_like_not_contains (h : ∃ c ∈ query, isSpecial c = true) :
    ∃ s, '\x00' ∉ s ∧ like (occursPattern query) s = true ∧ ¬Contains query s := by
  by_cases hnul : '\x00' ∈ query
  · -- The pattern ends at the NUL character, before the per cent sign.
    obtain ⟨start, rest, rfl, hstart⟩ := List.eq_append_cons_of_mem hnul
    have hread : '\x00' ∉ '-' :: start := by simp [hstart]
    refine ⟨'-' :: start, hread, ?_, fun hcontains => hcontains.nul_not_mem hread hnul⟩
    have hpattern :
        readText (occursPattern (start ++ '\x00' :: rest)) = '%' :: start.map readChar := by
      have hopen : '\x00' ∉ '%' :: start := by simp [hstart]
      have hcut := readText_append hopen ('\x00' :: rest ++ ['%'])
      simpa [occursPattern, readText, readChar] using hcut
    have hself : Fits (start.map readChar ++ []) (start.map readChar ++ []) := .literal rfl .done
    rw [List.append_nil] at hself
    rw [like, fits_iff, hpattern, readText_eq hread]
    exact .run [readChar '-'] hself
  · have hspecial : ∃ c ∈ query, isWildcard c = true ∨ isBlurred c = true := by
      obtain ⟨c, member, hc⟩ := h
      simp only [isSpecial, Bool.or_eq_true, beq_iff_eq] at hc
      rcases hc with (hc | rfl) | hc
      · exact ⟨c, member, .inl hc⟩
      · exact absurd member hnul
      · exact ⟨c, member, .inr hc⟩
    have hread : '\x00' ∉ query.map disguise := by
      intro hmem
      obtain ⟨c, member, hc⟩ := List.mem_map.mp hmem
      exact disguise_ne_nul (fun hc => hnul (hc ▸ member)) hc
    refine ⟨query.map disguise, hread, ?_, not_contains_disguise hspecial⟩
    rw [like, fits_iff, readText_occursPattern hnul, readText_eq hread]
    exact .run [] (fits_disguise query)

end Read

end CodeIndex.Text
