/-!
Tables whose rows have a number, in ascending order.

A new row gets the number after the largest one, so the numbers of erased rows at the end are given
again.
-/

namespace CodeIndex

structure Table (α : Type) where
  rows : List (Nat × α) := []
  deriving DecidableEq, Repr

namespace Table

variable {α : Type}

/-- The largest number of a row, or zero. -/
def lastId (t : Table α) : Nat :=
  t.rows.foldl (fun id row => max id row.1) 0

def nextId (t : Table α) : Nat :=
  t.lastId + 1

def values (t : Table α) : List α :=
  t.rows.map Prod.snd

def insert (t : Table α) (a : α) : Table α :=
  ⟨t.rows ++ [(t.nextId, a)]⟩

/-- The numbers that the next rows get. -/
def nextIds (t : Table α) (count : Nat) : List Nat :=
  List.range' t.nextId count

def insertAll (t : Table α) (as : List α) : Table α :=
  ⟨t.rows ++ (t.nextIds as.length).zip as⟩

/-- The row with the number, in place of one that has it. -/
def put (t : Table α) (id : Nat) (a : α) : Table α :=
  ⟨(t.rows.filter fun row => row.1 < id) ++ [(id, a)] ++ t.rows.filter fun row => id < row.1⟩

def eraseWhere (t : Table α) (p : α → Bool) : Table α :=
  ⟨t.rows.filter fun row => !p row.2⟩

def eraseIds (t : Table α) (ids : List Nat) : Table α :=
  ⟨t.rows.filter fun row => !ids.contains row.1⟩

def updateWhere (t : Table α) (p : α → Bool) (f : α → α) : Table α :=
  ⟨t.rows.map fun row => if p row.2 then (row.1, f row.2) else row⟩

/-- The numbers of the rows with a property. -/
def idsWhere (t : Table α) (p : α → Bool) : List Nat :=
  (t.rows.filter fun row => p row.2).map Prod.fst

/-- The first row with a property. -/
def find? (t : Table α) (p : α → Bool) : Option α :=
  t.values.find? p

end Table

/-- The first of some rows; a negative limit is none. -/
def limited {α : Type} (limit : Int) (rows : List α) : List α :=
  if limit < 0 then rows else rows.take limit.toNat

/-- A limit fits in a signed number of 64 bits. -/
def isLimit : Int → Bool
  | .ofNat n => n < 0x8000000000000000
  | .negSucc n => n < 0x8000000000000000

end CodeIndex
