import CodeIndex.Index.Table

/-!
Tables in which the numbers of the rows ascend.

The numbers of erased rows at the end are given again, so a number alone does not tell when its row
was put in. What holds is that a new number is larger than those of all rows that are there. Hence
new rows stand at the end, a row put in under a new number replaces none, and the rows with given
numbers are found again by their numbers alone.
-/

namespace CodeIndex.Table

variable {α β : Type}

/-- The numbers of the rows ascend, so no two rows share one. -/
def Ascending (t : Table α) : Prop :=
  t.rows.Pairwise fun a b => a.1 < b.1

def map (f : α → β) (t : Table α) : Table β :=
  ⟨t.rows.map fun row => (row.1, f row.2)⟩

theorem eq_of_rows_eq {s t : Table α} (h : s.rows = t.rows) : s = t := by
  cases s
  cases t
  exact congrArg Table.mk h

private theorem le_foldl_max (rows : List (Nat × α)) (start : Nat) :
    start ≤ rows.foldl (fun id row => max id row.1) start ∧
      ∀ row ∈ rows, row.1 ≤ rows.foldl (fun id row => max id row.1) start := by
  induction rows generalizing start with
  | nil => simp
  | cons first rest ih =>
      obtain ⟨hstart, hrest⟩ := ih (max start first.1)
      simp only [List.foldl_cons]
      refine ⟨by omega, ?_⟩
      intro row member
      rcases List.mem_cons.mp member with rfl | member
      · omega
      · exact hrest row member

/-- The next number is larger than all that are taken. -/
theorem lt_nextId (t : Table α) (row : Nat × α) (member : row ∈ t.rows) :
    row.1 < t.nextId := by
  have h := (le_foldl_max t.rows 0).2 row member
  simp only [nextId, lastId]
  omega

private theorem nextId_insert (t : Table α) (a : α) : (t.insert a).nextId = t.nextId + 1 := by
  have hlast : (t.insert a).lastId = max t.lastId t.nextId := by
    simp [insert, lastId, List.foldl_append]
  have hnext : t.nextId = t.lastId + 1 := rfl
  have hnew : (t.insert a).nextId = (t.insert a).lastId + 1 := rfl
  omega

/-- New rows stand at the end, under the numbers that were announced. -/
theorem rows_insertAll (t : Table α) (as : List α) :
    (t.insertAll as).rows = t.rows ++ (t.nextIds as.length).zip as :=
  rfl

theorem insertAll_nil (t : Table α) : t.insertAll [] = t := by
  simp [insertAll]

/-- Rows that are put in together might as well be put in one after the other. -/
theorem insertAll_cons (t : Table α) (a : α) (rest : List α) :
    t.insertAll (a :: rest) = (t.insert a).insertAll rest := by
  simp only [insertAll, nextIds, nextId_insert, List.length_cons, List.range'_succ,
    List.zip_cons_cons]
  simp [insert]

theorem mem_nextIds (t : Table α) (count id : Nat) (member : id ∈ t.nextIds count) :
    t.nextId ≤ id := by
  have h := List.mem_range'.mp member
  omega

private theorem nextIds_ascending (t : Table α) (count : Nat) :
    (t.nextIds count).Pairwise (· < ·) :=
  List.pairwise_lt_range'

theorem ascending_empty : (({} : Table α)).Ascending :=
  List.Pairwise.nil

/-- New rows go to the end of the table. -/
theorem Ascending.insertAll {t : Table α} (h : t.Ascending) (as : List α) :
    (t.insertAll as).Ascending := by
  unfold Ascending
  rw [rows_insertAll, List.pairwise_append]
  refine ⟨h, ?_, ?_⟩
  · apply List.Pairwise.of_map Prod.fst (fun _ _ hlt => hlt)
    rw [List.map_fst_zip (by simp [nextIds])]
    exact nextIds_ascending t as.length
  · intro old hold new hnew
    have hlt := t.lt_nextId old hold
    have hle := t.mem_nextIds as.length new.1 (List.of_mem_zip hnew).1
    omega

theorem Ascending.eraseWhere {t : Table α} (h : t.Ascending) (p : α → Bool) :
    (t.eraseWhere p).Ascending :=
  List.Pairwise.filter _ h

/-- In an ascending table a number has one row. -/
theorem Ascending.eq_of_fst_eq {t : Table α} (h : t.Ascending) (a b : Nat × α)
    (ha : a ∈ t.rows) (hb : b ∈ t.rows) (heq : a.1 = b.1) : a = b := by
  obtain ⟨rows⟩ := t
  unfold Ascending at h
  induction rows with
  | nil => cases ha
  | cons first rest ih =>
      obtain ⟨hfirst, hrest⟩ := List.pairwise_cons.mp h
      rcases List.mem_cons.mp ha with rfl | hatail
      · rcases List.mem_cons.mp hb with rfl | hbtail
        · rfl
        · have := hfirst b hbtail
          omega
      · rcases List.mem_cons.mp hb with rfl | hbtail
        · have := hfirst a hatail
          omega
        · exact ih hrest hatail hbtail

/-- Erasing rows by the numbers of those with a property erases exactly the rows with the
property. -/
theorem Ascending.eraseIds_idsWhere {t : Table α} (h : t.Ascending) (p : α → Bool) :
    t.eraseIds (t.idsWhere p) = t.eraseWhere p := by
  unfold eraseIds Table.eraseWhere
  congr 1
  apply List.filter_congr
  intro row member
  have hfound : row.1 ∈ t.idsWhere p ↔ p row.2 = true := by
    constructor
    · intro hid
      obtain ⟨other, hother, heq⟩ := List.mem_map.mp hid
      obtain ⟨hrow, hp⟩ := List.mem_filter.mp hother
      rw [← h.eq_of_fst_eq other row hrow member heq]
      exact hp
    · intro hp
      exact List.mem_map.mpr ⟨row, List.mem_filter.mpr ⟨member, hp⟩, rfl⟩
  rw [Bool.eq_iff_iff]
  simp [hfound]

theorem idsWhere_map (t : Table α) (f : α → β) (p : β → Bool) :
    (t.map f).idsWhere p = t.idsWhere fun a => p (f a) := by
  simp [idsWhere, map, List.filter_map, Function.comp_def]

theorem eraseWhere_map (t : Table α) (f : α → β) (p : β → Bool) :
    (t.map f).eraseWhere p = (t.eraseWhere fun a => p (f a)).map f := by
  simp [eraseWhere, map, List.filter_map, Function.comp_def]

theorem lt_nextId_of_mem_map (t : Table α) (f : α → β) (row : Nat × β)
    (member : row ∈ (t.map f).rows) : row.1 < t.nextId := by
  obtain ⟨old, hold, rfl⟩ := List.mem_map.mp member
  exact t.lt_nextId old hold

/-- The values computed for new rows stand behind the others, under the next numbers. -/
theorem map_insertAll (t : Table α) (f : α → β) (as : List α) :
    ((t.insertAll as).map f).rows =
      (t.map f).rows ++ (t.nextIds as.length).zip (as.map f) := by
  simp only [map, rows_insertAll, List.map_append, List.zip_map_right]
  rfl

/-- Rows for which the same value is computed, under the next numbers. -/
theorem nextIds_zip_const (t : Table α) (f : α → β) {b : β} {as : List α}
    (h : ∀ a ∈ as, f a = b) :
    (t.nextIds as.length).zip (as.map f) = (t.nextIds as.length).map fun id => (id, b) := by
  have hvalues : as.map f = List.replicate as.length b := by
    apply List.eq_replicate_iff.mpr
    exact ⟨by simp, by simpa using h⟩
  have hsame : (t.nextIds as.length).map (fun _ => b) = List.replicate as.length b := by
    rw [List.map_const', nextIds, List.length_range']
  rw [hvalues, List.map_prod_left_eq_zip, hsame]

theorem values_eraseWhere (t : Table α) (p : α → Bool) :
    (t.eraseWhere p).values = t.values.filter fun a => !p a := by
  simp [values, eraseWhere, List.filter_map, Function.comp_def]

theorem values_insertAll (t : Table α) (as : List α) :
    (t.insertAll as).values = t.values ++ as := by
  rw [values, rows_insertAll, List.map_append, List.map_snd_zip (by simp [nextIds])]
  rfl

theorem values_insert (t : Table α) (a : α) : (t.insert a).values = t.values ++ [a] := by
  simp [values, insert]

theorem values_updateWhere (t : Table α) (p : α → Bool) (f : α → α) :
    (t.updateWhere p f).values = t.values.map fun a => if p a then f a else a := by
  simp only [values, updateWhere, List.map_map]
  apply List.map_congr_left
  intro row _
  simp only [Function.comp_apply]
  split <;> rfl

theorem values_map (t : Table α) (f : α → β) : (t.map f).values = t.values.map f := by
  simp [values, map]

/-- What changes rows, but not their keys, changes no keys. -/
theorem map_values_updateWhere (t : Table α) (p : α → Bool) {f : α → α} {key : α → β}
    (h : ∀ a, key (f a) = key a) : (t.updateWhere p f).values.map key = t.values.map key := by
  rw [values_updateWhere, List.map_map]
  apply List.map_congr_left
  intro a _
  simp only [Function.comp_apply]
  split
  · exact h a
  · rfl

/-- No two rows have the same key, nor do they with a row whose key is new. -/
theorem nodup_map_values_insert {t : Table α} {key : α → β} (h : (t.values.map key).Nodup) {a : α}
    (hnew : ∀ b ∈ t.values, key b ≠ key a) : ((t.insert a).values.map key).Nodup := by
  rw [values_insert, List.map_append, List.nodup_append]
  refine ⟨h, by simp, ?_⟩
  intro first hfirst second hsecond
  obtain ⟨b, member, rfl⟩ := List.mem_map.mp hfirst
  obtain rfl : second = key a := by simpa using hsecond
  exact hnew b member

/-- A row with a property is not seen among the rows without it. -/
theorem eraseWhere_insert (t : Table α) (p : α → Bool) (a : α) (h : p a = true) :
    (t.insert a).eraseWhere p = t.eraseWhere p := by
  simp [eraseWhere, insert, h]

/-- Rows that are erased anyway may be put in before. -/
theorem eraseWhere_insertAll (t : Table α) (p : α → Bool) (as : List α)
    (h : ∀ a ∈ as, p a = true) : (t.insertAll as).eraseWhere p = t.eraseWhere p := by
  induction as generalizing t with
  | nil => rw [insertAll_nil]
  | cons a rest ih =>
      have hrest := ih (t.insert a) fun b member => h b (List.mem_cons_of_mem a member)
      rw [insertAll_cons]
      exact hrest.trans (t.eraseWhere_insert p a (h a List.mem_cons_self))

/-- What changes rows with a property, and leaves it to them, does not touch the rows without it. -/
theorem eraseWhere_updateWhere (t : Table α) (p : α → Bool) (f : α → α)
    (h : ∀ a, p a = true → p (f a) = true) : (t.updateWhere p f).eraseWhere p = t.eraseWhere p := by
  obtain ⟨rows⟩ := t
  simp only [eraseWhere, updateWhere]
  congr 1
  induction rows with
  | nil => rfl
  | cons row rest ih =>
      rw [List.map_cons, List.filter_cons, List.filter_cons, ih]
      cases hp : p row.2 with
      | false => simp [hp]
      | true => simp [h row.2 hp]

theorem filter_values_updateWhere (t : Table α) (p : α → Bool) (f : α → α)
    (h : ∀ a, p a = true → p (f a) = true) :
    (t.updateWhere p f).values.filter p = (t.values.filter p).map f := by
  rw [values_updateWhere]
  induction t.values with
  | nil => rfl
  | cons a rest ih =>
      rw [List.map_cons, List.filter_cons, List.filter_cons, ih]
      cases hp : p a with
      | false => simp [hp]
      | true => simp [h a hp]

theorem eraseIds_nil (t : Table α) : t.eraseIds [] = t :=
  eq_of_rows_eq (by simp [eraseIds])

theorem find?_eq_none_iff (t : Table α) (p : α → Bool) :
    t.find? p = none ↔ t.values.filter p = [] := by
  rw [find?, ← List.head?_filter, List.head?_eq_none_iff]

/-- Nothing is changed where the rows with the property are as they would be made. -/
theorem updateWhere_eq_self (t : Table α) (p : α → Bool) (f : α → α)
    (h : ∀ a ∈ t.values.filter p, f a = a) : t.updateWhere p f = t := by
  apply eq_of_rows_eq
  refine (List.map_congr_left ?_).trans (List.map_id t.rows)
  intro row hrow
  cases hp : p row.2 with
  | false => simp
  | true =>
      have hvalue : row.2 ∈ t.values := List.mem_map_of_mem hrow
      simp [h row.2 (List.mem_filter.mpr ⟨hvalue, hp⟩)]

theorem updateWhere_updateWhere (t : Table α) (p : α → Bool) (f g : α → α)
    (h : ∀ a, p a = true → p (f a) = true) :
    (t.updateWhere p f).updateWhere p g = t.updateWhere p (g ∘ f) := by
  apply eq_of_rows_eq
  simp only [updateWhere, List.map_map]
  apply List.map_congr_left
  intro row _
  cases hp : p row.2 with
  | false => simp [hp]
  | true => simp [hp, h row.2 hp]

theorem eraseWhere_eraseWhere (t : Table α) (p : α → Bool) :
    (t.eraseWhere p).eraseWhere p = t.eraseWhere p := by
  simp [eraseWhere]

/-- Nothing is erased where no row has the property. -/
theorem eraseWhere_eq_self (t : Table α) (p : α → Bool) (h : ∀ a ∈ t.values, p a = false) :
    t.eraseWhere p = t := by
  apply eq_of_rows_eq
  refine List.filter_eq_self.mpr ?_
  intro row member
  simp [h row.2 (List.mem_map_of_mem member)]

theorem find?_eraseWhere (t : Table α) (p q : α → Bool) (h : ∀ a, q a = true → p a = false) :
    (t.eraseWhere p).find? q = t.find? q := by
  rw [find?, values_eraseWhere, List.find?_filter]
  apply congrArg (fun r => t.values.find? r)
  funext a
  cases hq : q a with
  | false => simp
  | true => simp [h a hq]

/-- Rows with a property are not touched when those with another one that excludes it are erased. -/
theorem filter_values_eraseWhere (t : Table α) (p q : α → Bool)
    (h : ∀ a, q a = true → p a = false) :
    (t.eraseWhere p).values.filter q = t.values.filter q := by
  rw [values_eraseWhere, List.filter_filter]
  apply List.filter_congr
  intro a _
  cases hq : q a with
  | false => rfl
  | true => simp [h a hq]

section Replace

variable (t : Table α) (p : α → Bool) {as : List α}

/-- Where the rows with a property are replaced, the new ones are all that have it. -/
theorem filter_values_replace_self (has : ∀ a ∈ as, p a = true) :
    ((t.eraseWhere p).insertAll as).values.filter p = as := by
  have hold : (t.eraseWhere p).values.filter p = [] := by
    rw [values_eraseWhere, List.filter_filter]
    apply List.filter_eq_nil_iff.mpr
    intro a _
    simp
  rw [values_insertAll, List.filter_append, hold, List.nil_append, List.filter_eq_self.mpr has]

/-- To replace some values does not touch those without their property. -/
theorem filter_values_replace_other {q : α → Bool} (has : ∀ a ∈ as, p a = true)
    (h : ∀ a, q a = true → p a = false) :
    ((t.eraseWhere p).insertAll as).values.filter q = t.values.filter q := by
  have hnew : as.filter q = [] := by
    apply List.filter_eq_nil_iff.mpr
    intro a member hq
    have hfalse := h a hq
    rw [has a member] at hfalse
    cases hfalse
  rw [values_insertAll, List.filter_append, hnew, List.append_nil,
    t.filter_values_eraseWhere p q h]

end Replace

end CodeIndex.Table
