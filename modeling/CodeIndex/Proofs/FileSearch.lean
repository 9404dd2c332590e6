import CodeIndex.Proofs.CallQueries
import CodeIndex.Proofs.Wildcards

/-!
The search for files by a part of their path.

A search that may give every record never misses one whose path contains the query. It gives such
records only, whatever paths there are, exactly if the query holds no special character. It has no
answer where the limit or, with a record to compare it to, the query is too long.
-/

namespace CodeIndex

open CodeIndex.Text

/-- The items with a property, each once and in their order. -/
inductive Selects {α : Type} (p : α → Prop) : List α → List α → Prop where
  | nil : Selects p [] []
  | take {a : α} (h : p a) {items chosen : List α} (rest : Selects p items chosen) :
      Selects p (a :: items) (a :: chosen)
  | skip {a : α} (h : ¬p a) {items chosen : List α} (rest : Selects p items chosen) :
      Selects p (a :: items) chosen

section Selects

variable {α : Type} {p : α → Prop} {items chosen : List α}

theorem selects_filter {test : α → Bool} (h : ∀ a ∈ items, test a = true ↔ p a) :
    Selects p items (items.filter test) := by
  induction items with
  | nil => exact .nil
  | cons a items ih =>
      obtain ⟨hfirst, hrest⟩ := List.forall_mem_cons.mp h
      by_cases ha : test a = true
      · rw [List.filter_cons_of_pos ha]
        exact .take (hfirst.mp ha) (ih hrest)
      · rw [List.filter_cons_of_neg ha]
        exact .skip (fun hp => ha (hfirst.mpr hp)) (ih hrest)

private theorem Selects.holds (h : Selects p items chosen) : ∀ a ∈ chosen, p a := by
  induction h with
  | nil => simp
  | take ha _ ih => exact List.forall_mem_cons.mpr ⟨ha, ih⟩
  | skip _ _ ih => exact ih

end Selects

namespace Index

section Search

variable {α : Type} {pattern : List Char} {textOf : α → String} {items : List α} {idx : Index}
  {limit : Int} {query : String}

/-- A comparison with a pattern answers where it is made with a pattern that is taken, or not made
at all. -/
private theorem likeIn_eq_ok_iff {found : List α} : likeIn pattern textOf items = .ok found ↔
    (isPattern pattern = true ∨ items = []) ∧
      found = items.filter fun a => like pattern (textOf a).toList := by
  unfold likeIn
  split
  · rename_i h
    rw [Bool.or_eq_true, List.isEmpty_iff] at h
    rw [Except.ok.injEq, and_iff_right h]
    exact eq_comm
  · rename_i h
    rw [Bool.or_eq_true, List.isEmpty_iff] at h
    constructor
    · exact fun hfound => nomatch hfound
    · exact fun hfound => absurd hfound.1 h

theorem isPattern_occursPattern_iff (query : String) :
    isPattern (occursPattern query.toList) = true ↔
      (Utf8.encode query.toList).length ≤ 49998 := by
  have hlength : (Utf8.encode (occursPattern query.toList)).length =
      (Utf8.encode query.toList).length + 2 := by
    have hsign : String.utf8EncodeChar '%' = [37] := by decide
    simp [Utf8.encode, occursPattern, hsign]
  rw [isPattern, decide_eq_true_iff, hlength, longestPattern]
  omega

/-- A limit that the records do not reach plays no part. -/
private theorem searchFiles_eq (hcovers : (idx.records.values.length : Int) ≤ limit)
    (hlimit : isLimit limit = true) :
    idx.searchFiles query limit =
      likeIn (occursPattern query.toList) Record.path idx.records.values := by
  have hstored : (if limit = 0 then [] else idx.records.values) = idx.records.values := by
    split
    · symm
      apply List.eq_nil_of_length_eq_zero
      omega
    · rfl
  rw [searchFiles, if_pos hlimit]
  simp only [hstored]
  cases hfound : likeIn (occursPattern query.toList) Record.path idx.records.values with
  | error failure => rfl
  | ok found =>
      have hfewer : found.length ≤ idx.records.values.length := by
        rw [(likeIn_eq_ok_iff.mp hfound).2]
        exact List.length_filter_le _ _
      change Except.ok (limited limit found) = _
      rw [limited_of_length_le (Int.le_trans (Int.ofNat_le.mpr hfewer) hcovers)]

private theorem isLimit_iff (hnonneg : 0 ≤ limit) :
    isLimit limit = true ↔ limit < 0x8000000000000000 := by
  cases limit with
  | ofNat n =>
      rw [isLimit, decide_eq_true_iff, Int.ofNat_eq_natCast]
      omega
  | negSucc n => omega

/-- When a search that may give every record answers, and what it gives. -/
private theorem searchFiles_eq_ok_iff (hcovers : (idx.records.values.length : Int) ≤ limit)
    {answer : List Record} : idx.searchFiles query limit = .ok answer ↔
      limit < 0x8000000000000000 ∧
      ((Utf8.encode query.toList).length ≤ 49998 ∨ idx.records.values = []) ∧
      answer = idx.records.values.filter fun r =>
        like (occursPattern query.toList) r.path.toList := by
  rw [← isLimit_iff (by omega), ← isPattern_occursPattern_iff]
  by_cases hlimit : isLimit limit = true
  · rw [searchFiles_eq hcovers hlimit, likeIn_eq_ok_iff, and_iff_right hlimit]
  · rw [searchFiles, if_neg hlimit]
    constructor
    · exact fun hanswer => nomatch hanswer
    · exact fun hanswer => absurd hanswer.1 hlimit

private theorem mem_answer_of_contains (hcovers : (idx.records.values.length : Int) ≤ limit)
    {answer : List Record} (hanswer : idx.searchFiles query limit = .ok answer) {r : Record}
    (member : r ∈ idx.records.values) (hread : '\x00' ∉ r.path.toList)
    (hcontains : Contains query.toList r.path.toList) : r ∈ answer := by
  obtain ⟨-, -, rfl⟩ := (searchFiles_eq_ok_iff hcovers).mp hanswer
  exact List.mem_filter.mpr ⟨member, like_of_contains hread hcontains⟩

def PathsRead (idx : Index) : Prop :=
  ∀ r ∈ idx.records.values, '\x00' ∉ r.path.toList

/-- A search that may give every record gives those whose path contains the query, and no others. -/
def FindsContaining (query : String) (idx : Index) (limit : Int) : Prop :=
  ∃ answer, idx.searchFiles query limit = .ok answer ∧
    Selects (fun r => Contains query.toList r.path.toList) idx.records.values answer

private theorem findsContaining_of_plain (hcovers : (idx.records.values.length : Int) ≤ limit)
    (hlimit : limit < 0x8000000000000000) (hshort : (Utf8.encode query.toList).length ≤ 49998)
    (hread : idx.PathsRead) (hplain : ∀ c ∈ query.toList, isSpecial c = false) :
    idx.FindsContaining query limit := by
  refine ⟨_, (searchFiles_eq_ok_iff hcovers).mpr ⟨hlimit, .inl hshort, rfl⟩, ?_⟩
  apply selects_filter
  intro r member
  constructor
  · exact contains_of_like hplain (hread r member)
  · exact like_of_contains (hread r member)

def ofPath (path : String) : Index :=
  { records := { rows := [(1, { path })] } }

private theorem pathsRead_ofPath {path : String} (h : '\x00' ∉ path.toList) :
    (ofPath path).PathsRead := by
  intro r member
  obtain rfl : r = { path } := by simpa [ofPath, Table.values] using member
  exact h

/-- A query with a special character finds a path that does not contain it. -/
private theorem exists_not_findsContaining (hspecial : ∃ c ∈ query.toList, isSpecial c = true) :
    ∃ path, (ofPath path).PathsRead ∧ ¬(ofPath path).FindsContaining query 1 := by
  obtain ⟨s, hread, hlike, hnot⟩ := exists_like_not_contains hspecial
  refine ⟨String.ofList s, pathsRead_ofPath (by simpa using hread), ?_⟩
  rintro ⟨answer, hanswer, hselects⟩
  obtain ⟨-, -, rfl⟩ := (searchFiles_eq_ok_iff (Int.le_refl 1)).mp hanswer
  have hfound : ({ path := String.ofList s } : Record) ∈
      (ofPath (String.ofList s)).records.values.filter fun r =>
        like (occursPattern query.toList) r.path.toList := by
    simpa [ofPath, Table.values] using hlike
  apply hnot
  simpa using hselects.holds _ hfound

end Search

/-- A search for files with a limit that the records do not exceed answers exactly if the limit is a
number of 64 bits and the query, where there is a record to compare it to, has a length that is
taken. It misses no path that is read to its end and contains the query up to ASCII letter case. It
gives exactly the records of such paths, whatever paths there are, if and only if the query has a
length that is taken and holds no wildcard, no NUL character and none of the three characters that
are not told apart. -/
theorem search_lists_containing_paths_iff (query : String) :
    (∀ (idx : Index) (limit : Int), (idx.records.values.length : Int) ≤ limit →
      ((∃ answer, idx.searchFiles query limit = .ok answer) ↔
        limit < 0x8000000000000000 ∧
          ((Utf8.encode query.toList).length ≤ 49998 ∨ idx.records.values = [])) ∧
      ∀ answer, idx.searchFiles query limit = .ok answer →
        ∀ r ∈ idx.records.values, '\x00' ∉ r.path.toList →
          Contains query.toList r.path.toList → r ∈ answer) ∧
    ((∀ (idx : Index) (limit : Int), (idx.records.values.length : Int) ≤ limit →
        limit < 0x8000000000000000 → idx.PathsRead → idx.FindsContaining query limit) ↔
      (Utf8.encode query.toList).length ≤ 49998 ∧
        ∀ c ∈ query.toList, c ∉ ['%', '_', '\x00', '\ufffd', '\ufffe', '\uffff']) := by
  have hspecial (c : Char) : c ∉ ['%', '_', '\x00', '\ufffd', '\ufffe', '\uffff'] ↔
      isSpecial c = false := by
    simp [isSpecial, isWildcard, isBlurred, and_assoc]
  simp only [hspecial]
  refine ⟨fun idx limit hcovers => ⟨?_, ?_⟩, ?_, ?_⟩
  · simp only [searchFiles_eq_ok_iff hcovers, exists_and_left, exists_eq, and_true]
  · intro answer hanswer r member
    exact mem_answer_of_contains hcovers hanswer member
  · intro hfinds
    constructor
    · have hread : (ofPath "a").PathsRead := pathsRead_ofPath (by decide)
      obtain ⟨answer, hanswer, -⟩ := hfinds (ofPath "a") 1 (Int.le_refl 1) (by omega) hread
      obtain ⟨-, hshort | hnone, -⟩ := (searchFiles_eq_ok_iff (Int.le_refl 1)).mp hanswer
      · exact hshort
      · cases hnone
    · intro c member
      cases hc : isSpecial c with
      | false => rfl
      | true =>
          obtain ⟨path, hread, hnot⟩ := exists_not_findsContaining ⟨c, member, hc⟩
          exact absurd (hfinds (ofPath path) 1 (Int.le_refl 1) (by omega) hread) hnot
  · rintro ⟨hshort, hplain⟩ idx limit hcovers hlimit hread
    exact findsContaining_of_plain hcovers hlimit hshort hread hplain

/-- Names in both letter cases, and one that does not contain the query. -/
theorem search_lists_paths_in_both_cases :
    let idx : Index :=
      { records := { rows := [(1, { path := "a.py" }), (2, { path := "B.PY" }),
          (4, { path := "c.js" })] } }
    (idx.records.values.length : Int) ≤ 20 ∧ idx.PathsRead ∧
      ∃ answer, idx.searchFiles ".Py" 20 = .ok answer ∧
        answer.map Record.path = ["a.py", "B.PY"] ∧
        Selects (fun r => Contains ".Py".toList r.path.toList) idx.records.values answer := by
  intro idx
  have hread : idx.PathsRead := by
    simp [PathsRead, idx, Table.values]
  have hplain : ∀ c ∈ ".Py".toList, c ∉ ['%', '_', '\x00', '\ufffd', '\ufffe', '\uffff'] := by
    simp
  obtain ⟨answer, hanswer, hselects⟩ := (search_lists_containing_paths_iff ".Py").2.mpr
    ⟨by decide, hplain⟩ idx 20 (by decide) (by decide) hread
  have hshown : (idx.searchFiles ".Py" 20).toOption.map (List.map Record.path) =
      some ["a.py", "B.PY"] := by
    decide +kernel
  rw [hanswer] at hshown
  exact ⟨by decide, hread, answer, hanswer, Option.some.inj hshown, hselects⟩

/-- A NUL character is found in every path, a character in the place of another that it is not told
from, and a text behind a NUL character not at all. With a limit beyond 64 bits, or with a longer
query, a path is not even found by itself. -/
theorem search_takes_queries_for_others :
    let long := String.ofList (List.replicate 49999 'a')
    (¬Contains "\x00".toList "a.py".toList ∧
      (ofPath "a.py").searchFiles "\x00" 1 = .ok (ofPath "a.py").records.values) ∧
    (¬Contains "\uffff".toList "\ufffd.py".toList ∧
      (ofPath "\ufffd.py").searchFiles "\uffff" 1 = .ok (ofPath "\ufffd.py").records.values) ∧
    (Contains "b".toList "a\x00b".toList ∧ (ofPath "a\x00b").searchFiles "b" 1 = .ok []) ∧
    (ofPath "a").searchFiles "a" 0x8000000000000000 = .error .limitTooLarge ∧
    (ofPath long).searchFiles long 1 = .error .patternTooLong := by
  intro long
  refine ⟨⟨?_, ?_⟩, ⟨?_, ?_⟩, ⟨?_, ?_⟩, rfl, ?_⟩
  · exact fun h => h.nul_not_mem (by decide) (by decide)
  · exact (searchFiles_eq_ok_iff (Int.le_refl 1)).mpr
      ⟨by decide, .inl (by decide), by decide +kernel⟩
  · intro h
    have member : '\uffff' ∈ "\ufffd.py".toList.map Char.toLower := h.subset (by decide)
    revert member
    decide
  · exact (searchFiles_eq_ok_iff (Int.le_refl 1)).mpr
      ⟨by decide, .inl (by decide), by decide +kernel⟩
  · exact contains_iff.mpr ⟨['a', '\x00'], ['b'], [], by decide, rfl⟩
  · exact (searchFiles_eq_ok_iff (Int.le_refl 1)).mpr
      ⟨by decide, .inl (by decide), by decide +kernel⟩
  · have hletter : String.utf8EncodeChar 'a' = [97] := by decide
    have hlength (n : Nat) : (Utf8.encode (List.replicate n 'a')).length = n := by
      simp [Utf8.encode, List.flatMap_replicate, hletter]
    have hlong : ¬isPattern (occursPattern long.toList) = true := by
      rw [isPattern_occursPattern_iff, String.toList_ofList, hlength]
      omega
    rw [searchFiles_eq (Int.le_refl 1) rfl, likeIn, if_neg]
    rintro htaken
    exact hlong (by simpa [ofPath, Table.values] using htaken)

end Index

end CodeIndex
