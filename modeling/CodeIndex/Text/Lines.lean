/-!
Line ends, and the two ways text is cut into lines.

`fields '\n'` cuts at every line feed and keeps an empty last line; `lines` cuts at every
character that ends a line in any convention and has no empty last line.
-/

namespace CodeIndex.Text

/-- Carriage returns become line feeds, and one that precedes a line feed disappears. -/
def unixLines : List Char → List Char
  | [] => []
  | '\r' :: '\n' :: rest => '\n' :: unixLines rest
  | '\r' :: rest => '\n' :: unixLines rest
  | c :: rest => c :: unixLines rest

/-- The pieces between the occurrences of a separator: one more than there are separators. -/
def fields {α : Type} [DecidableEq α] (sep : α) : List α → List (List α)
  | [] => [[]]
  | c :: rest =>
    match fields sep rest with
    | [] => [[c]]
    | first :: others => if c = sep then [] :: first :: others else (c :: first) :: others

/-- Characters that end a line: line feed, tabulation and feed marks, the separators `FS`, `GS`
and `RS`, next line, and the Unicode line and paragraph separators. -/
def isLineEnd (c : Char) : Bool :=
  let n := c.toNat
  (10 ≤ n && n ≤ 13) || (28 ≤ n && n ≤ 30) || n == 0x85 || n == 0x2028 || n == 0x2029

/-- The lines still to come, where `line` holds the characters of the current one in reverse. -/
def linesFrom (line : List Char) : List Char → List (List Char)
  | [] => if line.isEmpty then [] else [line.reverse]
  | '\r' :: '\n' :: rest => line.reverse :: linesFrom [] rest
  | c :: rest =>
    if isLineEnd c then line.reverse :: linesFrom [] rest else linesFrom (c :: line) rest

/-- The lines of a text without their ends; a carriage return and a line feed end one line. -/
def lines (s : List Char) : List (List Char) :=
  linesFrom [] s

/-- Puts the separator between the pieces. -/
def join {α : Type} (sep : List α) : List (List α) → List α
  | [] => []
  | [piece] => piece
  | piece :: rest => piece ++ sep ++ join sep rest

/-- Puts the separator between the strings. -/
def joinStrings (sep : String) : List String → String
  | [] => ""
  | [piece] => piece
  | piece :: rest => piece ++ sep ++ joinStrings sep rest

end CodeIndex.Text
