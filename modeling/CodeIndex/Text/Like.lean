import CodeIndex.Text.Utf8

/-!
Patterns of the `LIKE` operator: a per cent sign stands for any text, a low line for any one
character, and every other character for itself in either ASCII case. No character escapes them.

The operator reads texts and patterns up to their first NUL character, and it does not tell the two
noncharacters at the end of the first plane from the replacement character. It takes patterns up to
a length in bytes.
-/

namespace CodeIndex.Text

/-- The characters are equal up to ASCII letter case. -/
def sameLetter (a b : Char) : Bool :=
  a.toLower == b.toLower

/-- The text and all that is left of it after dropping characters from its front. -/
def endings : List Char → List (List Char)
  | [] => [[]]
  | c :: rest => (c :: rest) :: endings rest

/-- The text fits the pattern from end to end. -/
def fits : List Char → List Char → Bool
  | [], s => s.isEmpty
  | '%' :: pattern, s => (endings s).any (fits pattern)
  | '_' :: _, [] => false
  | '_' :: pattern, _ :: rest => fits pattern rest
  | _ :: _, [] => false
  | p :: pattern, c :: rest => sameLetter p c && fits pattern rest

/-- A character as the operator reads it. -/
def readChar (c : Char) : Char :=
  if c == '\ufffe' || c == '\uffff' then '\ufffd' else c

/-- A text as the operator reads it. -/
def readText (s : List Char) : List Char :=
  (s.takeWhile (· != '\x00')).map readChar

/-- The text is like the pattern. -/
def like (pattern s : List Char) : Bool :=
  fits (readText pattern) (readText s)

/-- The pattern of texts in which another text occurs. -/
def occursPattern (s : List Char) : List Char :=
  '%' :: s ++ ['%']

/-- How many bytes a pattern may have. -/
def longestPattern : Nat := 50000

/-- The operator takes the pattern. -/
def isPattern (pattern : List Char) : Bool :=
  (Utf8.encode pattern).length ≤ longestPattern

end CodeIndex.Text
