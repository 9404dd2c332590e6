import CodeIndex.Embedding.Device

/-!
Embedders turn texts into vectors of numbers by a model.

Nothing is known of the model but the length of the vectors that each of its calls gives. The
embedder remembers the first length it has seen, and asks for one when it has seen none.
-/

namespace CodeIndex

/-- Why there is no embedder: nothing of that type is known. -/
structure UnknownEmbedder where
  type : String
  deriving DecidableEq, Repr

def UnknownEmbedder.message (e : UnknownEmbedder) : String :=
  "Unknown embedder type: " ++ e.type

/-- An embedder with a model of the given name. -/
structure Embedder where
  model : String
  device : Device
  /-- The length of vectors, once it is known. -/
  dimension : Option Nat := none
  /-- How often the model was called. -/
  calls : Nat := 0
  /-- The texts that vectors for a search were asked of, the first one first. -/
  queries : List String := []
  deriving DecidableEq, Repr

namespace Embedder

def load (type model : String) (device : Device) : Except UnknownEmbedder Embedder :=
  if type == "local" then .ok { model, device } else .error ⟨type⟩

/-- The lengths of the vectors for some texts; `lengths` gives the length at each call. -/
def documents (lengths : Nat → Nat) (texts : List String) (e : Embedder) : List Nat × Embedder :=
  let found := texts.map fun _ => lengths e.calls
  (found, { e with calls := e.calls + 1, dimension := e.dimension.or found.head? })

/-- The length of the vector for a text that is searched for. -/
def query (lengths : Nat → Nat) (text : String) (e : Embedder) : Nat × Embedder :=
  let found := lengths e.calls
  (found, { e with
    calls := e.calls + 1
    dimension := e.dimension.or (some found)
    queries := e.queries ++ [text] })

/-- The text that is searched for to learn the length of vectors. -/
def probe : String := "dimension probe"

/-- The length of vectors, by a search if it is not known yet. -/
def askDimension (lengths : Nat → Nat) (e : Embedder) : Nat × Embedder :=
  match e.dimension with
  | some n => (n, e)
  | none => e.query lengths probe

end Embedder

end CodeIndex
