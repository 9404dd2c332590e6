/-!
Patterns of paths, as the lines of an ignore file give them.

A pattern is a list of pieces. Each piece can take up the start of a text in several ways, which are
tried in a fixed order, the longest first; the first choice that lets the whole pattern match is
the match. A match also says whether the path lies inside of a directory that the pattern names.
-/

namespace CodeIndex.Ignore

/-- The characters from `first` to `last`. -/
structure CharRange where
  first : Char
  last : Char
  deriving DecidableEq, Repr

namespace CharRange

def single (c : Char) : CharRange :=
  ⟨c, c⟩

def has (r : CharRange) (c : Char) : Bool :=
  r.first ≤ c && c ≤ r.last

/-- The ends are in the wrong order. -/
def isReversed (r : CharRange) : Bool :=
  r.last < r.first

end CharRange

inductive Piece where
  | literal (c : Char)
  /-- A character in one of the ranges, or in none of them. -/
  | oneOf (negated : Bool) (ranges : List CharRange)
  /-- A character of a name. -/
  | nameChar
  /-- Any number of characters of a name. -/
  | namePart
  /-- At least one character of a name. -/
  | name
  /-- At least one character of a line. -/
  | someText
  /-- Any directories in front of a name, or none. -/
  | above
  /-- Any directories between two names, or none. -/
  | between
  /-- All that lies in a directory. -/
  | below
  /-- All that lies in a directory, or nothing. -/
  | maybeBelow
  /-- All that lies in a directory that the pattern names. -/
  | inside
  /-- All that lies in a directory that the pattern names, or nothing. -/
  | maybeInside
  deriving DecidableEq, Repr

/-- What is left of a text after a run of characters with a property, the longest run first and no
character last. -/
def rests (p : Char → Bool) : List Char → List (List Char)
  | [] => [[]]
  | c :: text => if p c then rests p text ++ [c :: text] else [c :: text]

def isNameChar (c : Char) : Bool :=
  c != '/'

def isLineChar (c : Char) : Bool :=
  c != '\n'

/-- What is left after a slash and any characters of a line. -/
def restsBelow : List Char → List (List Char)
  | '/' :: text => rests isLineChar text
  | _ => []

/-- What is left after directories and the slash behind them. -/
def restsAbove (text : List Char) : List (List Char) :=
  (rests isLineChar text).dropLast.filterMap fun rest =>
    match rest with
    | '/' :: rest => some rest
    | _ => none

/-- A single character with a property. -/
def restOfOne (p : Char → Bool) : List Char → List (List Char)
  | c :: text => if p c then [text] else []
  | [] => []

/-- What is left of the text after the piece in each of the ways it can be taken, the preferred way
first, and whether the way enters a directory that the pattern names. -/
def Piece.ways (piece : Piece) (text : List Char) : List (Bool × List Char) :=
  let plain := List.map (Prod.mk false)
  let entering := List.map (Prod.mk true)
  match piece with
  | .literal c => plain (restOfOne (· == c) text)
  | .oneOf negated ranges =>
    plain (restOfOne (fun c => (ranges.any fun r => r.has c) != negated) text)
  | .nameChar => plain (restOfOne isNameChar text)
  | .namePart => plain (rests isNameChar text)
  | .name => plain (rests isNameChar text).dropLast
  | .someText => plain (rests isLineChar text).dropLast
  | .above => plain (restsAbove text) ++ [(false, text)]
  | .between => plain (restsBelow text).dropLast ++ [(false, text)]
  | .below => plain (restsBelow text)
  | .maybeBelow => plain (restsBelow text) ++ [(false, text)]
  | .inside => entering (restsBelow text)
  | .maybeInside => entering (restsBelow text) ++ [(false, text)]

/-- The first match of the pieces with the whole text, the line feed at its end apart: whether it
enters a directory that the pattern names, on top of `entered`. -/
def matchPieces? : List Piece → Bool → List Char → Option Bool
  | [], entered, text => if text.isEmpty || text == ['\n'] then some entered else none
  | piece :: pieces, entered, text =>
    (piece.ways text).findSome? fun way => matchPieces? pieces (entered || way.1) way.2

/-- A pattern that makes the paths it matches ignored, or not ignored after all. -/
structure Pattern where
  ignores : Bool
  pieces : List Piece
  deriving DecidableEq, Repr

/-- Whether the path lies inside of a directory that the pattern names, if the pattern matches. -/
def Pattern.match? (p : Pattern) (path : List Char) : Option Bool :=
  matchPieces? p.pieces false path

end CodeIndex.Ignore
