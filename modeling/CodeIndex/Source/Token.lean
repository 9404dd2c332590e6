/-!
Tokens of Python source text, with the lines they stand on.

The layout of the text is made explicit: the end of a logical line, a step to a deeper
indentation and each step back are tokens of their own.
-/

namespace CodeIndex.Source

/-- A string literal between its quotes, as written. -/
structure StringToken where
  isBytes : Bool
  isRaw : Bool
  isFormat : Bool
  body : List Char
  deriving DecidableEq, Repr

inductive TokenKind where
  | name (id : String)
  | keyword (word : String)
  | number (imaginary : Bool)
  | string (literal : StringToken)
  | op (sign : String)
  | newline
  | indent
  | dedent
  | endMarker
  deriving DecidableEq, Repr

namespace TokenKind

/-- Tokens that only describe the layout: a construct ends before them. -/
def isLayout : TokenKind → Bool
  | .newline | .indent | .dedent | .endMarker => true
  | _ => false

end TokenKind

structure Token where
  kind : TokenKind
  line : Nat
  endLine : Nat
  deriving DecidableEq, Repr

/-- Words that cannot be names. -/
def keywords : List String := [
  "False", "None", "True", "and", "as", "assert", "async", "await", "break", "class", "continue",
  "def", "del", "elif", "else", "except", "finally", "for", "from", "global", "if", "import", "in",
  "is", "lambda", "nonlocal", "not", "or", "pass", "raise", "return", "try", "while", "with",
  "yield"]

/-- Operators and delimiters, the longer before their own beginnings. -/
def operators : List String := [
  "**=", "...", "//=", "<<=", ">>=",
  "!=", "%=", "&=", "**", "*=", "+=", "-=", "->", "//", "/=", ":=", "<<", "<=", "<>", "==", ">=",
  ">>", "@=", "^=", "|=",
  "%", "&", "(", ")", "*", "+", ",", "-", ".", "/", ":", ";", "<", "=", ">", "@", "[", "]", "^",
  "\x7b", "|", "\x7d", "~"]

end CodeIndex.Source
