import CodeIndex.Ignore.Pattern
import CodeIndex.Text.Blank
import CodeIndex.Text.Lines
import CodeIndex.Text.Quoted

/-!
The reading of a line of an ignore file.

A line is cut at its slashes. A name without a slash in front of it or in its middle is looked for
in every directory; two stars stand for any directories, and a slash at the end for what lies in
the directory. Blank lines, comments and a single slash give no pattern.
-/

namespace CodeIndex.Ignore

open CodeIndex.Text

/-- Why a line is no pattern. -/
inductive LineFailure where
  | invalid (line : List Char)
  | reversedRange
  deriving DecidableEq, Repr

def LineFailure.message : LineFailure → String
  | .invalid line => "Invalid git pattern: " ++ String.ofList (quoted line)
  | .reversedRange => "bad character range"

def twoStars : List Char := ['*', '*']

/-- The ranges in brackets. A hyphen between two characters makes a range of them. -/
def rangesOf : List Char → List CharRange
  | first :: '-' :: last :: rest => ⟨first, last⟩ :: rangesOf rest
  | c :: rest => .single c :: rangesOf rest
  | [] => []

/-- Characters in brackets, and the number of characters up to the closing bracket. -/
structure Bracketed where
  negated : Bool
  inner : List Char
  length : Nat
  deriving DecidableEq, Repr

/-- Reads what follows an opening bracket. A bracket that closes at once stands for itself. -/
def bracketed? (text : List Char) : Option Bracketed :=
  let (negated, rest) :=
    match text with
    | '!' :: rest => (true, rest)
    | '^' :: rest => (true, rest)
    | rest => (false, rest)
  let (lead, rest) :=
    match rest with
    | ']' :: rest => ([']'], rest)
    | rest => ([], rest)
  if rest.contains ']' then
    let inner := lead ++ rest.takeWhile (· != ']')
    some ⟨negated, inner, (if negated then 1 else 0) + inner.length + 1⟩
  else none

/-- The pieces of a name, the first `skip` characters of which are read already. Nothing if the name
ends in a backslash. -/
def namePieces? (skip : Nat) : List Char → Option (List Piece)
  | [] => some []
  | c :: rest =>
    match skip with
    | k + 1 => namePieces? k rest
    | 0 =>
      match c, rest with
      | '\\', [] => none
      | '\\', next :: _ => (namePieces? 1 rest).map (.literal next :: ·)
      | '*', _ => (namePieces? 0 rest).map (.namePart :: ·)
      | '?', _ => (namePieces? 0 rest).map (.nameChar :: ·)
      | '[', _ =>
        match bracketed? rest with
        | some b => (namePieces? b.length rest).map (.oneOf b.negated (rangesOf b.inner) :: ·)
        | none => (namePieces? 0 rest).map (.literal '[' :: ·)
      | _, _ => (namePieces? 0 rest).map (.literal c :: ·)

/-- Several times two stars in a row are the same as once. -/
def dropRepeated : List (List Char) → List (List Char)
  | first :: second :: rest =>
    if first == twoStars && second == twoStars then dropRepeated (second :: rest)
    else first :: dropRepeated (second :: rest)
  | segments => segments

/-- Starts the segments at the root of the project, or in any directory. -/
def anchored : List (List Char) → List (List Char)
  | [] :: rest => rest
  | [segment] => if segment == twoStars then [segment] else [twoStars, segment]
  | [segment, []] => if segment == twoStars then [segment, []] else [twoStars, segment, []]
  | segments => segments

/-- A slash at the end stands for what lies in the directory. -/
def opened : List (List Char) → List (List Char)
  | [] => []
  | [segment] => [segment]
  | [segment, []] => [segment, twoStars]
  | segment :: rest => segment :: opened rest

/-- The pieces of the segments after the first one; `slash` says that a slash is still to come. -/
def laterPieces? (isDirectory : Bool) : Bool → List (List Char) → Option (List Piece)
  | _, [] => some []
  | slash, segment :: rest =>
    if segment == twoStars then
      if rest.isEmpty then some [if isDirectory then .inside else .below]
      else (laterPieces? isDirectory true rest).map (.between :: ·)
    else
      match if segment == ['*'] then some [.name] else namePieces? 0 segment with
      | none => none
      | some own =>
        (laterPieces? isDirectory true rest).map fun later =>
          (if slash then [.literal '/'] else []) ++ own ++
            (if rest.isEmpty then [.maybeInside] else []) ++ later

/-- The pieces of all segments. -/
def segmentPieces? (isDirectory : Bool) : List (List Char) → Option (List Piece)
  | segment :: rest =>
    if segment == twoStars then
      if rest.isEmpty then some [.name, .maybeBelow]
      else (laterPieces? isDirectory false rest).map (.above :: ·)
    else laterPieces? isDirectory false (segment :: rest)
  | [] => none

def Piece.isReversed : Piece → Bool
  | .oneOf _ ranges => ranges.any CharRange.isReversed
  | _ => false

/-- The line without the blanks around it; a blank at its end that a backslash stands before
stays. -/
def lineText (line : List Char) : List Char :=
  if ['\\', ' '].isSuffixOf line then trimStart line else trim line

/-- The pieces of a pattern, without the mark in front of it. -/
def patternPieces? (text : List Char) : Option (List Piece) :=
  let segments := dropRepeated (fields '/' text)
  if segments == [twoStars, []] then some [.someText, .inside]
  else segmentPieces? (segments.getLast? == some []) (opened (anchored segments))

/-- The pattern of a line, if it has one. -/
def Pattern.ofLine (line : List Char) : Except LineFailure (Option Pattern) :=
  let text := lineText line
  if text.isEmpty || text.head? == some '#' || text == ['/'] then .ok none
  else
    let (ignores, body) :=
      match text with
      | '!' :: rest => (false, rest)
      | text => (true, text)
    match patternPieces? body with
    | none => .error (.invalid line)
    | some pieces =>
      if pieces.any Piece.isReversed then .error .reversedRange
      else .ok (some { ignores, pieces })

end CodeIndex.Ignore
