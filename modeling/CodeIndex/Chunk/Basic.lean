import CodeIndex.Language.Basic
import CodeIndex.Text.Find

/-!
Chunks: the pieces of a file that are searched, with the lines they stand on.

A splitter cuts the text; what it returns is taken as it comes. A piece is placed where it first
occurs in the text, and on the first line if it does not occur at all.
-/

namespace CodeIndex

/-- A piece of a file on the lines `startLine` to `endLine`, counted from one. -/
structure Chunk where
  content : String
  filePath : String
  startLine : Nat
  endLine : Nat
  language : Option String
  deriving DecidableEq, Repr

/-- Why a text could not be cut. -/
inductive CutFailure where
  | overlapTooLarge (overlap size : Int)
  | fault (message : String)
  deriving DecidableEq, Repr

def CutFailure.message : CutFailure → String
  | .overlapTooLarge overlap size =>
    "Got a larger chunk overlap (" ++ toString overlap ++ ") than chunk size (" ++ toString size ++
      "), should be smaller."
  | .fault message => message

/-- Cuts a text of a language, if it is known, into pieces. -/
abbrev Splitter := Option Language → List Char → Except CutFailure (List (List Char))

/-- The splitter with a fault: it fails with a message where it would cut. -/
def Splitter.failing (splitter : Splitter) (message : String) : Splitter := fun language text =>
  match splitter language text with
  | .error failure => .error failure
  | .ok _ => .error (.fault message)

namespace Chunk

/-- The line on which a piece first occurs. -/
def lineOf (content piece : List Char) : Nat :=
  match Text.find? piece content with
  | some offset => (content.take offset).count '\n' + 1
  | none => 1

def ofPiece (path : String) (content piece : List Char) : Chunk :=
  { content := String.ofList piece
    filePath := path
    startLine := lineOf content piece
    endLine := lineOf content piece + piece.count '\n'
    language := (Language.ofPath? path).map Language.name }

/-- The chunks of a file, one for each piece. -/
def ofFile (splitter : Splitter) (path : String) (content : List Char) :
    Except CutFailure (List Chunk) :=
  (splitter (Language.ofPath? path) content).map fun pieces => pieces.map (ofPiece path content)

end Chunk

end CodeIndex
