import CodeIndex.Source.Expression
import CodeIndex.Source.Pattern

/-!
The grammar of Python statements.

A definition keeps its decorators behind its body, as they are visited, and starts on the line of
its own keyword. A block is a node whose parts are its statements.
-/

namespace CodeIndex.Source.Statement

open CodeIndex.Source.Parser CodeIndex.Source.Expression

/-! ### Simple statements -/

/-- Names joined by dots. -/
def dottedName (n : Nat) : Parser String := do
  let first ← name
  let others ← collect (do if ← acceptOp "." then return some (← name) else pure none) n
  pure (".".intercalate (first :: others))

/-- An optional new name for what is imported. -/
def importAlias : Parser Unit := do
  if ← acceptKeyword "as" then
    let _ ← name
    pure ()

def importModules (n : Nat) : Parser Node := do
  let line ← here
  expectKeyword "import"
  let first ← module
  let others ← collect (do if ← acceptOp "," then return some (← module) else pure none) n
  node line (.importModules (first :: others)) []
where
  module : Parser String := do
    let id ← dottedName n
    importAlias
    pure id

/-- The dots in front of the module of a relative import: whether there are any. -/
def importLevel (n : Nat) : Parser Bool := do
  let dots ← collect (do
    if (← acceptOp ".") || (← acceptOp "...") then pure (some ()) else pure none) n
  pure !dots.isEmpty

def importedName : Parser String := do
  let id ← name
  importAlias
  pure id

def importNames (n : Nat) : Parser Node := do
  let line ← here
  expectKeyword "from"
  let relative ← importLevel n
  let source ← match ← peek with
    | .name _ => some <$> dottedName n
    | _ => if relative then pure none else failure
  expectKeyword "import"
  if ← acceptOp "*" then node line (.importNames source ["*"]) []
  else if ← acceptOp "(" then
    let first ← importedName
    let others ← if ← acceptOp "," then itemsUntil ")" importedName n else do
      expectOp ")"
      pure []
    node line (.importNames source (first :: others)) []
  else
    let first ← importedName
    let others ← collect (do
      if ← acceptOp "," then return some (← importedName) else pure none) n
    node line (.importNames source (first :: others)) []

/-- The right side of an assignment. -/
def assignedValue (n : Nat) (rules : Rules) : Parser Node := do
  if ← atKeyword "yield" then yieldExpression n rules else starExpressions n rules

def augmentedSigns : List String :=
  ["+=", "-=", "*=", "@=", "/=", "%=", "&=", "|=", "^=", "<<=", ">>=", "**=", "//="]

/-- The sides of a chained assignment after its first target: every one but the last is a target. -/
def assignmentChain (n : Nat) (rules : Rules) : Nat → Parser (List Node)
  | 0 => failure
  | k + 1 => do
    let value ← assignedValue n rules
    if ← acceptOp "=" then
      if !isStarTarget value then failure
      return value :: (← assignmentChain n rules k)
    else pure [value]

/-- An assignment in one of its three forms, or an expression as a statement. -/
def assignmentOrExpression (n : Nat) (rules : Rules) : Parser Node := do
  let line ← here
  let first ← starExpressions n rules
  match ← peek with
  | .op ":" =>
    if !isSingleTarget first then failure
    let _ ← advance
    let hint ← rules .expression
    let value ← if ← acceptOp "=" then only (assignedValue n rules) else pure []
    node line .other (first :: hint :: value)
  | .op "=" =>
    if !isStarTarget first then failure
    let _ ← advance
    let sides ← assignmentChain n rules n
    node line .other (first :: sides)
  | .op sign =>
    if augmentedSigns.contains sign then
      if !isSingleTarget first then failure
      let _ ← advance
      let value ← assignedValue n rules
      node line .other [first, value]
    else node line .expression [first]
  | _ => node line .expression [first]

def names (n : Nat) : Parser Unit := do
  let _ ← name
  let _ ← collect (do if ← acceptOp "," then return some (← name) else pure none) n

def deletion (n : Nat) (rules : Rules) (line : Nat) : Parser Node := do
  let (items, _) ← commaList (do
    let target ← rules .primary
    if !isDeletable target then failure
    pure target) moreExpressions n
  node line .other items

def simpleStatement (n : Nat) (rules : Rules) : Parser Node := do
  let line ← here
  match ← peek with
  | .keyword "import" => importModules n
  | .keyword "from" => importNames n
  | .keyword "yield" =>
    let value ← yieldExpression n rules
    node line .expression [value]
  | .keyword "pass" | .keyword "break" | .keyword "continue" =>
    let _ ← advance
    node line .other []
  | .keyword "return" =>
    let _ ← advance
    let value ← if ← moreExpressions then only (starExpressions n rules) else pure []
    node line .other value
  | .keyword "raise" =>
    let _ ← advance
    if ← moreExpressions then
      let raised ← rules .expression
      let cause ← if ← acceptKeyword "from" then only (rules .expression) else pure []
      node line .other (raised :: cause)
    else node line .other []
  | .keyword "global" | .keyword "nonlocal" =>
    let _ ← advance
    names n
    node line .other []
  | .keyword "del" =>
    let _ ← advance
    deletion n rules line
  | .keyword "assert" =>
    let _ ← advance
    let test ← rules .expression
    let message ← if ← acceptOp "," then only (rules .expression) else pure []
    node line .other (test :: message)
  | _ => assignmentOrExpression n rules

/-- Simple statements on one line, separated by semicolons. -/
def simpleStatements (n : Nat) (rules : Rules) : Nat → Parser (List Node)
  | 0 => failure
  | k + 1 => do
    let first ← simpleStatement n rules
    if ← acceptOp ";" then
      if ← accept .newline then pure [first]
      else return first :: (← simpleStatements n rules k)
    else
      expect .newline
      pure [first]

/-! ### Compound statements -/

/-- A colon and the statements it governs. -/
def body (rules : Rules) : Parser (List Node) := do
  expectOp ":"
  return (← rules .block).parts

/-- The statements of an optional `else`. -/
def elseBody (rules : Rules) : Parser (List Node) := do
  if ← acceptKeyword "else" then body rules else pure []

def ifStatement (n : Nat) (rules : Rules) : Parser Node := do
  let line ← here
  expectKeyword "if"
  let test ← namedExpression rules
  let first ← body rules
  let others ← collect (do
    if ← acceptKeyword "elif" then
      let test ← namedExpression rules
      return some (test :: (← body rules))
    else pure none) n
  let last ← elseBody rules
  node line .other (test :: first ++ others.flatten ++ last)

def whileStatement (rules : Rules) : Parser Node := do
  let line ← here
  expectKeyword "while"
  let test ← namedExpression rules
  let first ← body rules
  let last ← elseBody rules
  node line .other (test :: first ++ last)

def forStatement (n : Nat) (rules : Rules) (line : Nat) : Parser Node := do
  expectKeyword "for"
  let target ← targets n rules
  expectKeyword "in"
  let iterable ← starExpressions n rules
  let first ← body rules
  let last ← elseBody rules
  node line .other (target :: iterable :: first ++ last)

/-- One item of a `with` statement: the context and its optional target. -/
def withItem (rules : Rules) : Parser (List Node) := do
  let context ← rules .expression
  if ← acceptKeyword "as" then return [context, ← starTarget rules] else pure [context]

/-- The items of a `with` statement up to its colon. They may stand in parentheses; where that
reading fails, the parentheses belong to an expression. -/
def withItems (n : Nat) (rules : Rules) : Parser (List (List Node)) :=
  (do
    expectOp "("
    let first ← withItem rules
    let others ← if ← acceptOp "," then itemsUntil ")" (withItem rules) n else do
      expectOp ")"
      pure []
    if !(← atOp ":") then failure
    pure (first :: others)) <|>
  (do
    let (items, comma) ← commaList (withItem rules) (pure true) n
    if comma then failure
    pure items)

def withStatement (n : Nat) (rules : Rules) (line : Nat) : Parser Node := do
  expectKeyword "with"
  let items ← withItems n rules
  let first ← body rules
  node line .other (items.flatten ++ first)

/-- One handler, and whether it handles groups. -/
def exceptHandler (rules : Rules) : Parser (Node × Bool) := do
  let line ← here
  expectKeyword "except"
  if ← atOp ":" then
    let first ← body rules
    return (← node line .other first, false)
  else
    let grouped ← acceptOp "*"
    let kind ← rules .expression
    importAlias
    let first ← body rules
    return (← node line .other (kind :: first), grouped)

def finallyBody (rules : Rules) : Parser (Option (List Node)) := do
  if ← acceptKeyword "finally" then return some (← body rules) else pure none

def tryStatement (n : Nat) (rules : Rules) : Parser Node := do
  let line ← here
  expectKeyword "try"
  let first ← body rules
  let handlers ← collect (do
    if ← atKeyword "except" then return some (← exceptHandler rules) else pure none) n
  if handlers.any (·.2) && !handlers.all (·.2) then failure
  let last ← if handlers.isEmpty then pure [] else elseBody rules
  match ← finallyBody rules with
  | some final => node line .other (first ++ handlers.map (·.1) ++ last ++ final)
  | none =>
    if handlers.isEmpty then failure
    node line .other (first ++ handlers.map (·.1) ++ last)

def inBody (statements : List Node) : List Node :=
  statements.map (Node.inRole .body)

def functionDefinition (n : Nat) (rules : Rules) (line : Nat) (isAsync : Bool)
    (decorators : List Node) : Parser Node := do
  expectKeyword "def"
  let id ← name
  expectOp "("
  let params ← parameters n rules true (.op ")")
  expectOp ")"
  let result ← if ← acceptOp "->" then only (rules .expression) else pure []
  let statements ← body rules
  node line (.function id isAsync) (params :: inBody statements ++ decorators ++ result)

def classDefinition (n : Nat) (rules : Rules) (decorators : List Node) : Parser Node := do
  let line ← here
  expectKeyword "class"
  let id ← name
  let args ← if ← acceptOp "(" then arguments rules n {} else pure {}
  let statements ← body rules
  node line (.classDef id) (args.positional.map (Node.inRole .base) ++ args.keywords ++
    inBody statements ++ decorators)

def decorators (n : Nat) (rules : Rules) : Parser (List Node) :=
  collect (do
    if ← acceptOp "@" then
      let decorator ← namedExpression rules
      expect .newline
      pure (some decorator)
    else pure none) n

/-- A function or a class with its decorators. -/
def decorated (n : Nat) (rules : Rules) : Parser Node := do
  let marks ← decorators n rules
  let line ← here
  match ← peek with
  | .keyword "class" => classDefinition n rules marks
  | .keyword "async" =>
    let _ ← advance
    functionDefinition n rules line true marks
  | _ => functionDefinition n rules line false marks

def asyncStatement (n : Nat) (rules : Rules) : Parser Node := do
  let line ← here
  expectKeyword "async"
  match ← peek with
  | .keyword "def" => functionDefinition n rules line true []
  | .keyword "with" => withStatement n rules line
  | .keyword "for" => forStatement n rules line
  | _ => failure

/-- The subject of a `match`: an expression, or several as a tuple. -/
def matchSubject (n : Nat) (rules : Rules) : Parser Node := do
  let line ← here
  let (items, comma) ← commaList (starNamed rules) moreExpressions n
  match items, comma with
  | [item], false => if item.form == .starred then failure else pure item
  | _, _ => node line .tuple items

/-- The first line of a `match` statement, up to its indented cases. -/
def matchHeader (n : Nat) (rules : Rules) : Parser Node := do
  expect (.name "match")
  let subject ← matchSubject n rules
  expectOp ":"
  expect .newline
  expect .indent
  pure subject

/-- One case: pattern, guard, statements. -/
def matchCase (n : Nat) (rules : Rules) : Parser Node := do
  let line ← here
  expect (.name "case")
  let pattern ← Pattern.patterns n rules
  let guard ← if ← acceptKeyword "if" then only (namedExpression rules) else pure []
  let statements ← body rules
  node line .other (pattern :: guard ++ statements)

def matchStatement (n : Nat) (rules : Rules) (line : Nat) (subject : Node) : Parser Node := do
  let first ← matchCase n rules
  let others ← collect (do
    if ← at? .dedent then pure none else return some (← matchCase n rules)) n
  expect .dedent
  node line .other (subject :: first :: others)

/-- A statement, or the simple statements of one line. The word `match` starts a `match` statement
only where its first line reads as one. -/
def statement (n : Nat) (rules : Rules) : Parser (List Node) := do
  let line ← here
  match ← peek with
  | .keyword "if" => return [← ifStatement n rules]
  | .keyword "while" => return [← whileStatement rules]
  | .keyword "for" => return [← forStatement n rules line]
  | .keyword "try" => return [← tryStatement n rules]
  | .keyword "with" => return [← withStatement n rules line]
  | .keyword "def" => return [← functionDefinition n rules line false []]
  | .keyword "class" => return [← classDefinition n rules []]
  | .keyword "async" => return [← asyncStatement n rules]
  | .op "@" => return [← decorated n rules]
  | .name "match" =>
    let header : Parser (Option Node) := some <$> matchHeader n rules
    match ← header <|> pure none with
    | some subject => return [← matchStatement n rules line subject]
    | none => simpleStatements n rules n
  | _ => simpleStatements n rules n

/-- Statements up to the given token, which is not taken. -/
def statementsUntil (closing : TokenKind) (n : Nat) (rules : Rules) : Parser (List Node) := do
  let groups ← collect (do
    if ← at? closing then pure none else return some (← statement n rules)) n
  pure groups.flatten

/-- Indented statements on lines of their own, or simple statements on the same line. -/
def block (n : Nat) (rules : Rules) : Parser Node := do
  let line ← here
  if ← accept .newline then
    expect .indent
    let statements ← statementsUntil .dedent n rules
    expect .dedent
    node line .other statements
  else
    let statements ← simpleStatements n rules n
    node line .other statements

end CodeIndex.Source.Statement
