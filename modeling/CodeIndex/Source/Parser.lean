import CodeIndex.Source.Node
import CodeIndex.Source.Token

/-!
The parser's steps over a list of tokens.

A parser takes tokens from the front or refuses. The rules of the grammar are mutually recursive;
they are written as functions of the rules they use, with a bound on the depth of the recursion,
and tied together in `CodeIndex.Source.Grammar`.
-/

namespace CodeIndex.Source

/-- The tokens still to come, and the last line of the last token taken that is not layout. -/
structure ParserState where
  rest : List Token
  lastLine : Nat

/-- A parser refuses with `none` and then takes nothing. -/
abbrev Parser := StateT ParserState Option

/-- The rules that other rules call by name. -/
inductive Rule where
  /-- A conditional expression, a lambda or anything that binds tighter. -/
  | expression
  /-- Operands joined by `or`, or anything that binds tighter. -/
  | disjunction
  | inversion
  /-- Operands joined by `|`, or anything that binds tighter. -/
  | operand
  /-- An operand with its signs. -/
  | factor
  /-- An atom with its attributes, calls and subscripts. -/
  | primary
  | pattern
  /-- The statements that a compound statement governs, as the parts of one node. -/
  | block

/-- The rules as a rule body sees them. -/
abbrev Rules := Rule → Parser Node

namespace Parser

def peek : Parser TokenKind := do
  match (← get).rest with
  | t :: _ => pure t.kind
  | [] => pure .endMarker

/-- The second token from here. -/
def peekSecond : Parser TokenKind := do
  match (← get).rest with
  | _ :: t :: _ => pure t.kind
  | _ => pure .endMarker

/-- The line of the next token. -/
def here : Parser Nat := do
  match (← get).rest with
  | t :: _ => pure t.line
  | [] => return (← get).lastLine

/-- The line on which the text taken so far ends. -/
def lastLine : Parser Nat := do
  return (← get).lastLine

/-- Takes one token. -/
def advance : Parser Token := do
  let state ← get
  match state.rest with
  | t :: rest =>
    set { rest, lastLine := if t.kind.isLayout then state.lastLine else t.endLine : ParserState }
    pure t
  | [] => failure

def at? (kind : TokenKind) : Parser Bool := do
  return (← peek) == kind

def atOp (sign : String) : Parser Bool :=
  at? (.op sign)

def atKeyword (word : String) : Parser Bool :=
  at? (.keyword word)

def expect (kind : TokenKind) : Parser Unit := do
  if ← at? kind then
    let _ ← advance
    pure ()
  else failure

def expectOp (sign : String) : Parser Unit :=
  expect (.op sign)

def expectKeyword (word : String) : Parser Unit :=
  expect (.keyword word)

/-- Takes the token if it comes next. -/
def accept (kind : TokenKind) : Parser Bool := do
  if ← at? kind then
    let _ ← advance
    pure true
  else pure false

def acceptOp (sign : String) : Parser Bool :=
  accept (.op sign)

def acceptKeyword (word : String) : Parser Bool :=
  accept (.keyword word)

def name : Parser String := do
  match ← peek with
  | .name id =>
    let _ ← advance
    pure id
  | _ => failure

/-- The result of a parser as the one item of a list. -/
def only (p : Parser α) : Parser (List α) := do
  return [← p]

/-- Runs the step, at most `n` times, for as long as it has something to add. -/
def collect (step : Parser (Option α)) : Nat → Parser (List α)
  | 0 => failure
  | n + 1 => do
    match ← step with
    | none => pure []
    | some a => return a :: (← collect step n)

/-- One or more items with commas between them, where `more` tells whether another item follows a
comma; also whether a comma ends them. -/
def commaList (item : Parser α) (more : Parser Bool) (n : Nat) : Parser (List α × Bool) := do
  let first ← item
  go n [first]
where
  go : Nat → List α → Parser (List α × Bool)
  | 0, _ => failure
  | n + 1, done => do
    if ← acceptOp "," then
      if ← more then go n ((← item) :: done) else pure (done.reverse, true)
    else pure (done.reverse, false)

/-- A node that starts on the given line and ends with the last token taken. -/
def node (line : Nat) (form : Form) (parts : List Node) : Parser Node := do
  return .mk .part form line (← lastLine) parts

/-- Runs a parser on tokens of its own. -/
def onTokens (tokens : List Token) (p : Parser α) : Parser α := do
  let outer ← get
  set { rest := tokens, lastLine := outer.lastLine : ParserState }
  let result ← p
  set outer
  pure result

end Parser

end CodeIndex.Source
