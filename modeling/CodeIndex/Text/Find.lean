/-!
Occurrences of one text in another: the first place, the number of occurrences that do not
overlap, their replacement, and the cut at the first of them.
-/

namespace CodeIndex.Text

/-- The number of characters before the first occurrence of the pattern. -/
def find? (pattern : List Char) : List Char → Option Nat
  | [] => if pattern.isEmpty then some 0 else none
  | c :: rest =>
    if pattern.isPrefixOf (c :: rest) then some 0 else (find? pattern rest).map (· + 1)

/-- The pattern occurs somewhere in the text. -/
def contains (pattern s : List Char) : Bool :=
  (find? pattern s).isSome

/-- Counts occurrences of a non-empty pattern from the left, the first `skip` characters being
part of an occurrence already counted. -/
def occurrencesFrom (pattern : List Char) (skip : Nat) : List Char → Nat
  | [] => 0
  | c :: rest =>
    match skip with
    | k + 1 => occurrencesFrom pattern k rest
    | 0 =>
      if pattern.isPrefixOf (c :: rest) then
        1 + occurrencesFrom pattern (pattern.length - 1) rest
      else occurrencesFrom pattern 0 rest

/-- How many times a non-empty pattern occurs, overlaps counted once. -/
def occurrences (pattern s : List Char) : Nat :=
  occurrencesFrom pattern 0 s

/-- Erases the occurrences of a non-empty pattern from the left, the first `skip` characters
being part of an occurrence already erased. -/
def eraseFrom (pattern : List Char) (skip : Nat) : List Char → List Char
  | [] => []
  | c :: rest =>
    match skip with
    | k + 1 => eraseFrom pattern k rest
    | 0 =>
      if pattern.isPrefixOf (c :: rest) then eraseFrom pattern (pattern.length - 1) rest
      else c :: eraseFrom pattern 0 rest

/-- The text without the occurrences of a non-empty pattern. -/
def erase (pattern s : List Char) : List Char :=
  eraseFrom pattern 0 s

/-- The text before the first occurrence of the pattern, or all of it. -/
def before (pattern s : List Char) : List Char :=
  match find? pattern s with
  | some i => s.take i
  | none => s

/-- The text after the first occurrence of the pattern, if there is one. -/
def after? (pattern s : List Char) : Option (List Char) :=
  (find? pattern s).map fun i => s.drop (i + pattern.length)

/-- The pieces between the occurrences of a non-empty pattern, where `piece` holds the characters of
the current one in reverse and the first `skip` characters are part of an occurrence. -/
def piecesFrom (pattern : List Char) (skip : Nat) (piece : List Char) :
    List Char → List (List Char)
  | [] => [piece.reverse]
  | c :: rest =>
    match skip with
    | k + 1 => piecesFrom pattern k piece rest
    | 0 =>
      if pattern.isPrefixOf (c :: rest) then
        piece.reverse :: piecesFrom pattern (pattern.length - 1) [] rest
      else piecesFrom pattern 0 (c :: piece) rest

/-- The text after the last occurrence of a non-empty pattern, or all of it. -/
def afterLast (pattern s : List Char) : List Char :=
  (piecesFrom pattern 0 [] s).getLast?.getD []

/-- The string starts with the other one. -/
def startsWith (s pattern : String) : Bool :=
  pattern.toList.isPrefixOf s.toList

/-- The string ends with the other one. -/
def endsWith (s pattern : String) : Bool :=
  pattern.toList.isSuffixOf s.toList

end CodeIndex.Text
