import CodeIndex.Text.Composition

/-!
The normal form of identifiers: characters that only look different are told apart no longer.

Every character is decomposed, the marks after a character are put in the order of their classes,
and what can be composed is composed again.
-/

namespace CodeIndex.Text

/-- Puts a code point behind others, given in reverse; a mark goes in front of the marks of higher
classes before it. -/
def insertMark (n : Nat) : List Nat → List Nat
  | [] => [n]
  | last :: earlier =>
    if combiningClass n ≠ 0 && combiningClass n < combiningClass last then
      last :: insertMark n earlier
    else n :: last :: earlier

/-- Puts the marks after each character in the order of their classes. -/
def orderMarks (codes : List Nat) : List Nat :=
  (codes.foldl (fun done n => insertMark n done) []).reverse

/-- Composes the code points that follow `base`, where `marks` holds, in reverse, those after it that
did not compose. A mark is composed with the base unless a mark of the same or a higher class
stands between them. -/
def composeFrom (base : Nat) (marks : List Nat) : List Nat → List Nat
  | [] => base :: marks.reverse
  | n :: rest =>
    let reachable :=
      match marks with
      | [] => true
      | last :: _ => combiningClass last < combiningClass n
    match if reachable then compose? base n else none with
    | some composed => composeFrom composed marks rest
    | none =>
      if combiningClass n = 0 then base :: marks.reverse ++ composeFrom n [] rest
      else composeFrom base (n :: marks) rest

def composeAll : List Nat → List Nat
  | [] => []
  | n :: rest => composeFrom n [] rest

/-- The normal form of an identifier. ASCII text is in normal form. -/
def normalForm (s : List Char) : List Char :=
  if s.all fun c => c.toNat < 128 then s
  else (composeAll (orderMarks (s.flatMap fun c => decomposition c.toNat))).map Char.ofNat

end CodeIndex.Text
