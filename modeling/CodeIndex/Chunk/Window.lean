import CodeIndex.Chunk.Basic

/-!
The cutting of text by a window that slides over it, whatever the language.
-/

namespace CodeIndex

/-- A window of `size` characters that keeps `overlap` of them when it moves on. -/
structure Window where
  size : Int
  overlap : Int
  deriving DecidableEq, Repr

namespace Window

/-- How far the window moves, at least by one character. -/
def step (w : Window) : Nat :=
  max 1 (w.size - w.overlap).toNat

/-- How many characters are seen from `start` on in a text of a length. An end before the text counts
from the end of the text. -/
def reach (w : Window) (length start : Nat) : Nat :=
  let stop := start + w.size
  (if stop < 0 then (length + stop).toNat else stop.toNat) - start

/-- The views from `start` on, at most `fuel` of them, until one reaches the end of the text, of
which `rest` is what follows. -/
def viewsFrom (w : Window) (length : Nat) : Nat → Nat → List Char → List (List Char)
  | 0, _, _ => []
  | fuel + 1, start, rest =>
    if start < length then
      rest.take (w.reach length start) ::
        (if (length : Int) ≤ start + w.size then []
          else viewsFrom w length fuel (start + w.step) (rest.drop w.step))
    else []

/-- The pieces of a text. Each view starts at least one character after the one before it, so there
are no more of them than characters. -/
def cut (w : Window) (text : List Char) : List (List Char) :=
  viewsFrom w text.length text.length 0 text

/-- The splitter of a window, and of pieces given in advance. A window with an overlap larger than
itself cuts nothing. -/
def splitter (w : Window) (given : Option (List (List Char)) := none) : Splitter := fun _ text =>
  if w.size < w.overlap then .error (.overlapTooLarge w.overlap w.size)
  else .ok (given.getD (w.cut text))

end Window

end CodeIndex
