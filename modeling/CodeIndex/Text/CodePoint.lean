/-!
Code points: characters, and the halves of surrogate pairs, which an escape can name on their own.

A text of code points can be written as bytes, and so be stored, only if no half stands in it.
-/

namespace CodeIndex.Text

inductive CodePoint where
  | char (c : Char)
  /-- A half of a surrogate pair, by its number. -/
  | half (number : Nat)
  deriving DecidableEq, Repr

namespace CodePoint

def ofNat (n : Nat) : CodePoint :=
  if 0xD800 ≤ n && n ≤ 0xDFFF then .half n else .char (Char.ofNat n)

/-- The code point is a character with a property. -/
def isChar (p : Char → Bool) : CodePoint → Bool
  | .char c => p c
  | .half _ => false

def isHalf : CodePoint → Bool
  | .char _ => false
  | .half _ => true

end CodePoint

/-- A text in which halves of surrogate pairs may stand. -/
abbrev CodeText := List CodePoint

/-- The code points from `start`, `size` of them, are halves; `first` is the number of the first. -/
structure Unwritable where
  start : Nat
  size : Nat
  first : Nat
  deriving DecidableEq, Repr

/-- A single half is named by its number, more of them by their first and last offset. -/
def Unwritable.message (u : Unwritable) : String :=
  if u.size ≤ 1 then
    let digits := [u.first / 4096 % 16, u.first / 256 % 16, u.first / 16 % 16, u.first % 16]
    "'utf-8' codec can't encode character '\\u" ++ String.ofList (digits.map Nat.digitChar) ++
      "' in position " ++ toString u.start ++ ": surrogates not allowed"
  else
    "'utf-8' codec can't encode characters in position " ++ toString u.start ++ "-" ++
      toString (u.start + u.size - 1) ++ ": surrogates not allowed"

namespace CodeText

def ofList (s : List Char) : CodeText :=
  s.map .char

def ofString (s : String) : CodeText :=
  ofList s.toList

/-- The first halves of a text that starts at the given offset. -/
def unwritableFrom? (start : Nat) : CodeText → Option Unwritable
  | [] => none
  | .char _ :: rest => unwritableFrom? (start + 1) rest
  | .half first :: rest =>
    some { start, size := (rest.takeWhile CodePoint.isHalf).length + 1, first }

/-- Where the text cannot be written. -/
def unwritable? (s : CodeText) : Option Unwritable :=
  unwritableFrom? 0 s

end CodeText

end CodeIndex.Text
