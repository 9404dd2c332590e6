import CodeIndex.Source.Literal
import CodeIndex.Source.Parser
import CodeIndex.Source.Scan

/-!
The grammar of Python expressions.

Each definition is the body of one rule or of a part of one. `n` bounds the repetitions in a rule
and `rules` are the rules it may call. The parts of a node stand in the order of visiting: a
dictionary has its keys before its values, a conditional expression its test first, parameters
their defaults last.
-/

namespace CodeIndex.Source.Expression

open CodeIndex.Source.Parser

/-- An expression, or a starred one, can start with this token. -/
def startsExpression : TokenKind → Bool
  | .name _ | .number _ | .string _ => true
  | .keyword word => ["False", "None", "True", "await", "lambda", "not"].contains word
  | .op sign => ["(", "[", "\x7b", "-", "+", "~", "...", "*"].contains sign
  | _ => false

def moreExpressions : Parser Bool := do
  return startsExpression (← peek)

/-! ### Operators -/

/-- Operands joined from the left by any of the signs. -/
def leftAssociative (signs : List String) (operand : Parser Node) (n : Nat) : Parser Node := do
  let line ← here
  let first ← operand
  let others ← collect (do
    match ← peek with
    | .op sign =>
      if signs.contains sign then
        let _ ← advance
        return some (← operand)
      else pure none
    | _ => pure none) n
  others.foldlM (fun left right => node line .other [left, right]) first

def operand (n : Nat) (rules : Rules) : Parser Node :=
  let term := leftAssociative ["*", "/", "//", "%", "@"] (rules .factor) n
  let sum := leftAssociative ["+", "-"] term n
  let shift := leftAssociative ["<<", ">>"] sum n
  let conjunction := leftAssociative ["&"] shift n
  let difference := leftAssociative ["^"] conjunction n
  leftAssociative ["|"] difference n

def comparisonSigns : List String := ["==", "!=", "<=", "<", ">=", ">"]

/-- Takes a comparison operator, if one comes next. -/
def comparisonOperator : Parser Bool := do
  match ← peek with
  | .op sign =>
    if comparisonSigns.contains sign then
      let _ ← advance
      pure true
    else pure false
  | .keyword "in" => acceptKeyword "in"
  | .keyword "not" => do
    if (← peekSecond) == .keyword "in" then
      let _ ← advance
      acceptKeyword "in"
    else pure false
  | .keyword "is" => do
    let _ ← advance
    let _ ← acceptKeyword "not"
    pure true
  | _ => pure false

def comparison (n : Nat) (rules : Rules) : Parser Node := do
  let line ← here
  let first ← rules .operand
  let others ← collect (do
    if ← comparisonOperator then return some (← rules .operand) else pure none) n
  if others.isEmpty then pure first else node line .other (first :: others)

def inversion (n : Nat) (rules : Rules) : Parser Node := do
  let line ← here
  if ← acceptKeyword "not" then
    let inner ← rules .inversion
    node line .other [inner]
  else comparison n rules

/-- Operands joined by a keyword. -/
def joinedBy (word : String) (operand : Parser Node) (n : Nat) : Parser Node := do
  let line ← here
  let first ← operand
  let others ← collect (do
    if ← acceptKeyword word then return some (← operand) else pure none) n
  if others.isEmpty then pure first else node line .other (first :: others)

def disjunction (n : Nat) (rules : Rules) : Parser Node :=
  joinedBy "or" (joinedBy "and" (rules .inversion) n) n

def factor (_ : Nat) (rules : Rules) : Parser Node := do
  let line ← here
  match ← peek with
  | .op sign =>
    if ["+", "-", "~"].contains sign then
      let _ ← advance
      let inner ← rules .factor
      node line .other [inner]
    else power line
  | _ => power line
where
  power (line : Nat) : Parser Node := do
    let base ← if ← acceptKeyword "await" then do
        let inner ← rules .primary
        node line .other [inner]
      else rules .primary
    if ← acceptOp "**" then
      let exponent ← rules .factor
      node line .other [base, exponent]
    else pure base

/-! ### Parameters -/

/-- The parameters read so far. -/
structure Parameters where
  positionalOnly : List Node := []
  regular : List Node := []
  variadic : List Node := []
  keywordOnly : List Node := []
  keywordDefaults : List Node := []
  keywords : List Node := []
  defaults : List Node := []

def Parameters.node (line : Nat) (p : Parameters) : Parser Node :=
  Parser.node line .parameters (p.positionalOnly ++ p.regular.map (Node.inRole .parameter) ++
    p.variadic ++ p.keywordOnly ++ p.keywordDefaults ++ p.keywords ++ p.defaults)

/-- What may still follow in a parameter list. -/
inductive ParameterPhase where
  | positional
  /-- After a star, with the number of keyword only parameters that have to follow still. -/
  | keyword (needed : Bool)
  | ended
  deriving DecidableEq

/-- One parameter with its annotation, which a lambda has not. -/
def parameter (rules : Rules) (annotated starHint : Bool) : Parser Node := do
  let line ← here
  let id ← name
  if annotated && (← atOp ":") then
    let _ ← advance
    if starHint && (← atOp "*") then
      let _ ← advance
      let inner ← rules .operand
      let starred ← Parser.node line .starred [inner]
      Parser.node line (.parameter id) [starred]
    else
      let hint ← rules .expression
      Parser.node line (.parameter id) [hint]
  else Parser.node line (.parameter id) []

/-- A default value, if one comes next. -/
def defaultValue (rules : Rules) : Parser (List Node) := do
  if ← acceptOp "=" then return [← rules .expression] else pure []

/-- One item of a parameter list. -/
def parameterItem (rules : Rules) (annotated : Bool) (closing : TokenKind) :
    ParameterPhase → Parameters → Parser (ParameterPhase × Parameters)
  | .ended, _ => failure
  | phase, p => do
    if ← acceptOp "**" then
      if phase = .keyword true then failure
      let extra ← parameter rules annotated false
      pure (.ended, { p with keywords := [extra] })
    else if ← acceptOp "*" then
      if phase ≠ .positional then failure
      if ← atOp "," then pure (.keyword true, p)
      else
        let extra ← parameter rules annotated true
        pure (.keyword false, { p with variadic := [extra] })
    else if ← acceptOp "/" then
      if phase ≠ .positional || !p.positionalOnly.isEmpty || p.regular.isEmpty then failure
      if !((← atOp ",") || (← at? closing)) then failure
      pure (.positional, { p with positionalOnly := p.regular, regular := [] })
    else
      let param ← parameter rules annotated false
      let value ← defaultValue rules
      match phase with
      | .positional =>
        if value.isEmpty && !p.defaults.isEmpty then failure
        pure (.positional,
          { p with regular := p.regular ++ [param], defaults := p.defaults ++ value })
      | _ =>
        pure (.keyword false,
          { p with
            keywordOnly := p.keywordOnly ++ [param],
            keywordDefaults := p.keywordDefaults ++ value })

/-- A parameter list up to the token that closes it, which is not taken. -/
def parameters (n : Nat) (rules : Rules) (annotated : Bool) (closing : TokenKind) :
    Parser Node := do
  let line ← here
  if ← at? closing then Parameters.node line {} else go line n .positional {}
where
  go (line : Nat) : Nat → ParameterPhase → Parameters → Parser Node
  | 0, _, _ => failure
  | n + 1, phase, p => do
    let (phase, p) ← parameterItem rules annotated closing phase p
    let comma ← acceptOp ","
    if ← at? closing then
      if phase = .keyword true then failure
      p.node line
    else if comma then go line n phase p
    else failure

/-! ### Lists of expressions -/

/-- `name := value`, or an expression. -/
def namedExpression (rules : Rules) : Parser Node := do
  let line ← here
  match ← peek, ← peekSecond with
  | .name id, .op ":=" =>
    let _ ← advance
    let target ← node line (.name id) []
    let _ ← advance
    let value ← rules .expression
    node line .other [target, value]
  | _, _ => rules .expression

/-- A starred operand, or an expression that the given parser reads. -/
def starredOr (rules : Rules) (other : Parser Node) : Parser Node := do
  let line ← here
  if ← acceptOp "*" then
    let inner ← rules .operand
    node line .starred [inner]
  else other

/-- One expression, or several with commas as a tuple, starred ones included. -/
def starExpressions (n : Nat) (rules : Rules) : Parser Node := do
  let line ← here
  let (items, comma) ← commaList (starredOr rules (rules .expression)) moreExpressions n
  match items, comma with
  | [item], false => pure item
  | _, _ => node line .tuple items

def yieldExpression (n : Nat) (rules : Rules) : Parser Node := do
  let line ← here
  expectKeyword "yield"
  if ← acceptKeyword "from" then
    let inner ← rules .expression
    node line .other [inner]
  else if ← moreExpressions then
    let inner ← starExpressions n rules
    node line .other [inner]
  else node line .other []

def starNamed (rules : Rules) : Parser Node :=
  starredOr rules (namedExpression rules)

/-! ### Assignment targets -/

/-- The nodes that an assignment without a tuple may have on its left. -/
def isSingleTarget (n : Node) : Bool :=
  match n.form with
  | .name _ | .member _ | .subscript => true
  | _ => false

mutual
/-- A name, an attribute, a subscript, or a tuple or list of targets, which may be starred. -/
def isTarget : Node → Bool
  | .mk _ form _ _ parts =>
    match form with
    | .name _ | .member _ | .subscript => true
    | .tuple | .list => areStarTargets parts
    | _ => false

def areStarTargets : List Node → Bool
  | [] => true
  | n :: others => isStarTarget n && areStarTargets others

def isStarTarget : Node → Bool
  | .mk role form line endLine parts =>
    match form, parts with
    | .starred, [inner] => isTarget inner
    | form, parts => isTarget (.mk role form line endLine parts)
end

mutual
/-- A target without stars anywhere. -/
def isDeletable : Node → Bool
  | .mk _ form _ _ parts =>
    match form with
    | .name _ | .member _ | .subscript => true
    | .tuple | .list => areDeletable parts
    | _ => false

def areDeletable : List Node → Bool
  | [] => true
  | n :: others => isDeletable n && areDeletable others
end

/-- One target, possibly starred. -/
def starTarget (rules : Rules) : Parser Node := do
  let line ← here
  let starred ← acceptOp "*"
  let target ← rules .primary
  if !isTarget target then failure
  if starred then node line .starred [target] else pure target

/-- The targets of a loop. -/
def targets (n : Nat) (rules : Rules) : Parser Node := do
  let line ← here
  let (items, comma) ← commaList (starTarget rules) moreExpressions n
  match items, comma with
  | [item], false => pure item
  | _, _ => node line .tuple items

/-! ### Comprehensions -/

def atComprehension : Parser Bool := do
  match ← peek with
  | .keyword "for" => pure true
  | .keyword "async" => return (← peekSecond) == .keyword "for"
  | _ => pure false

/-- One `for` clause with its conditions: target, iterable, conditions. -/
def comprehensionClause (n : Nat) (rules : Rules) : Parser Node := do
  let line ← here
  let _ ← acceptKeyword "async"
  expectKeyword "for"
  let target ← targets n rules
  expectKeyword "in"
  let iterable ← rules .disjunction
  let conditions ← collect (do
    if ← acceptKeyword "if" then return some (← rules .disjunction) else pure none) n
  node line .other (target :: iterable :: conditions)

/-- The clauses after the element of a comprehension: at least one. -/
def comprehension (n : Nat) (rules : Rules) (line : Nat) (elements : List Node) : Parser Node := do
  let first ← comprehensionClause n rules
  let others ← collect (do
    if ← atComprehension then return some (← comprehensionClause n rules) else pure none) n
  node line .other (elements ++ first :: others)

/-! ### Arguments -/

/-- The arguments read so far, and what may still follow. -/
structure Arguments where
  positional : List Node := []
  keywords : List Node := []
  seenKeyword : Bool := false
  seenMapping : Bool := false

/-- One argument. After a keyword no plain argument follows, after a mapping no starred one. -/
def argument (rules : Rules) (a : Arguments) : Parser Arguments := do
  let line ← here
  match ← peek, ← peekSecond with
  | .op "*", _ =>
    if a.seenMapping then failure
    let _ ← advance
    let inner ← rules .expression
    let starred ← node line .starred [inner]
    pure { a with positional := a.positional ++ [starred] }
  | .op "**", _ =>
    let _ ← advance
    let inner ← rules .expression
    let mapping ← node line .other [inner]
    pure { a with keywords := a.keywords ++ [mapping], seenMapping := true }
  | .name _, .op "=" =>
    let _ ← advance
    let _ ← advance
    let inner ← rules .expression
    let keyword ← node line .other [inner]
    pure { a with keywords := a.keywords ++ [keyword], seenKeyword := true }
  | _, _ =>
    if a.seenKeyword || a.seenMapping then failure
    let value ← namedExpression rules
    pure { a with positional := a.positional ++ [value] }

/-- Arguments up to the closing parenthesis, which is taken. -/
def arguments (rules : Rules) : Nat → Arguments → Parser Arguments
  | 0, _ => failure
  | n + 1, a => do
    if ← acceptOp ")" then pure a
    else
      let a ← argument rules a
      if ← acceptOp "," then arguments rules n a
      else
        expectOp ")"
        pure a

/-- The arguments of a call after its opening parenthesis. A generator expression may stand alone
without parentheses of its own. -/
def callArguments (n : Nat) (rules : Rules) : Parser Arguments := do
  let line ← here
  if ← acceptOp ")" then pure {}
  else
    let a ← argument rules {}
    if ← atComprehension then
      match a.positional, a.keywords with
      | [element], [] =>
        if element.form == .starred then failure
        let generator ← comprehension n rules line [element]
        expectOp ")"
        pure { a with positional := [generator] }
      | _, _ => failure
    else if ← acceptOp "," then arguments rules n a
    else
      expectOp ")"
      pure a

/-! ### Subscripts -/

/-- An optional bound of a slice. -/
def sliceBound (rules : Rules) : Parser (List Node) := do
  if (← atOp ":") || (← atOp "]") || (← atOp ",") then pure [] else return [← rules .expression]

/-- What follows the first colon of a slice. -/
def sliceTail (rules : Rules) (line : Nat) (lower : List Node) : Parser Node := do
  expectOp ":"
  let upper ← sliceBound rules
  let step ← if ← acceptOp ":" then sliceBound rules else pure []
  node line .other (lower ++ upper ++ step)

/-- One item of a subscript: a slice, a starred expression or an expression. -/
def subscriptItem (rules : Rules) : Parser Node := do
  let line ← here
  if ← atOp ":" then sliceTail rules line []
  else if ← acceptOp "*" then
    let inner ← rules .expression
    node line .starred [inner]
  else
    let named := (← peekSecond) == .op ":="
    let item ← namedExpression rules
    if !named && (← atOp ":") then sliceTail rules line [item] else pure item

def subscriptItems (n : Nat) (rules : Rules) : Parser Node := do
  let line ← here
  let (items, comma) ← commaList (subscriptItem rules) (return !(← atOp "]")) n
  match items, comma with
  | [item], false => if item.form == .starred then node line .tuple [item] else pure item
  | _, _ => node line .tuple items

/-! ### Atoms -/

/-- The fields of a format string in a token that starts on the given line: each is an expression
read on its own, as if it stood in parentheses, with the fields of its format after it. -/
def formatFields (n : Nat) (rules : Rules) (line : Nat) :
    Nat → List Literal.Field → Parser (List Node)
  | 0, _ => failure
  | _ + 1, [] => pure []
  | k + 1, .mk source offset format :: others => do
    match tokens? (line + offset) ('(' :: source ++ [')']) with
    | none => failure
    | some tokens =>
      let value ← onTokens tokens (starExpressions n rules)
      let inner ← formatFields n rules line k format
      let field ← node line .other (value :: inner)
      return field :: (← formatFields n rules line k others)

/-- Adjacent string literals. They are all bytes or none is; one format string makes the whole a
format string, and otherwise it is a constant. -/
def strings (n : Nat) (rules : Rules) : Parser Node := do
  let line ← here
  let literals ← collect (do
    match ← peek with
    | .string literal =>
      let start ← here
      let _ ← advance
      pure (some (start, literal))
    | _ => pure none) n
  let isBytes := literals.any fun l => l.2.isBytes
  if isBytes && !literals.all (fun l => l.2.isBytes) then failure
  let values ← literals.mapM fun (start, literal) => do
    if literal.isFormat then
      match Literal.fields? literal with
      | none => failure
      | some fields =>
        let nodes ← formatFields n rules start n fields
        pure (([] : Text.CodeText), nodes)
    else
      match Literal.value? literal with
      | none => failure
      | some value => pure (value, [])
  if literals.any fun l => l.2.isFormat then node line .other (values.flatMap (·.2))
  else if isBytes then node line .other []
  else node line (.text (values.flatMap (·.1))) []

/-- The items after the first of a bracketed list, up to the closing sign, which is taken. -/
def itemsUntil (closing : String) (item : Parser α) : Nat → Parser (List α)
  | 0 => failure
  | n + 1 => do
    if ← acceptOp closing then pure []
    else
      let first ← item
      if ← acceptOp "," then return first :: (← itemsUntil closing item n)
      else
        expectOp closing
        pure [first]

/-- After an opening parenthesis: an empty tuple, a yield, a tuple, a generator or a group. -/
def parenthesised (n : Nat) (rules : Rules) (line : Nat) : Parser Node := do
  if ← acceptOp ")" then node line .tuple []
  else if ← atKeyword "yield" then
    let inner ← yieldExpression n rules
    expectOp ")"
    pure inner
  else
    let first ← starNamed rules
    if ← acceptOp "," then
      let others ← itemsUntil ")" (starNamed rules) n
      node line .tuple (first :: others)
    else if first.form == .starred then failure
    else if ← atComprehension then
      let generator ← comprehension n rules line [first]
      expectOp ")"
      pure generator
    else
      expectOp ")"
      pure first

/-- After an opening bracket: a list or a list comprehension. -/
def bracketed (n : Nat) (rules : Rules) (line : Nat) : Parser Node := do
  if ← acceptOp "]" then node line .list []
  else
    let first ← starNamed rules
    if ← acceptOp "," then
      let others ← itemsUntil "]" (starNamed rules) n
      node line .list (first :: others)
    else if (← atComprehension) && first.form != .starred then
      let inner ← comprehension n rules line [first]
      expectOp "]"
      pure inner
    else
      expectOp "]"
      node line .list [first]

/-- One item of a dictionary: an optional key and a value. -/
def dictionaryItem (rules : Rules) : Parser (List Node × Node) := do
  if ← acceptOp "**" then return ([], ← rules .operand)
  else
    let key ← rules .expression
    expectOp ":"
    return ([key], ← rules .expression)

/-- After an opening brace: a dictionary, a set, or a comprehension of either. -/
def braced (n : Nat) (rules : Rules) (line : Nat) : Parser Node := do
  let dictionary (items : List (List Node × Node)) : Parser Node :=
    node line .other (items.flatMap (·.1) ++ items.map (·.2))
  if ← acceptOp "\x7d" then dictionary []
  else if ← atOp "**" then dictionary (← itemsUntil "\x7d" (dictionaryItem rules) n)
  else
    let named := (← peekSecond) == .op ":="
    let first ← starNamed rules
    if !named && first.form != .starred && (← acceptOp ":") then
      let value ← rules .expression
      if ← atComprehension then
        let inner ← comprehension n rules line [first, value]
        expectOp "\x7d"
        pure inner
      else if ← acceptOp "," then
        dictionary (([first], value) :: (← itemsUntil "\x7d" (dictionaryItem rules) n))
      else
        expectOp "\x7d"
        dictionary [([first], value)]
    else if (← atComprehension) && first.form != .starred then
      let inner ← comprehension n rules line [first]
      expectOp "\x7d"
      pure inner
    else if ← acceptOp "," then
      let others ← itemsUntil "\x7d" (starNamed rules) n
      node line .other (first :: others)
    else
      expectOp "\x7d"
      node line .other [first]

def atom (n : Nat) (rules : Rules) : Parser Node := do
  let line ← here
  match ← peek with
  | .name id =>
    let _ ← advance
    node line (.name id) []
  | .number _ =>
    let _ ← advance
    node line .other []
  | .string _ => strings n rules
  | .keyword word =>
    if ["True", "False", "None"].contains word then
      let _ ← advance
      node line .other []
    else failure
  | .op "..." =>
    let _ ← advance
    node line .other []
  | .op "(" =>
    let _ ← advance
    parenthesised n rules line
  | .op "[" =>
    let _ ← advance
    bracketed n rules line
  | .op "\x7b" =>
    let _ ← advance
    braced n rules line
  | _ => failure

/-- Attributes, calls and subscripts after an atom. A call starts where what it calls starts, the
parentheses around that included. -/
def trailers (n : Nat) (rules : Rules) (line : Nat) : Nat → Node → Parser Node
  | 0, _ => failure
  | k + 1, base => do
    if ← acceptOp "." then
      let id ← name
      trailers n rules line k (← node line (.member id) [base])
    else if ← acceptOp "(" then
      let a ← callArguments n rules
      let call ← node line .call (base.inRole .callee :: a.positional ++ a.keywords)
      trailers n rules line k call
    else if ← acceptOp "[" then
      let index ← subscriptItems n rules
      expectOp "]"
      trailers n rules line k (← node line .subscript [base, index])
    else pure base

def primary (n : Nat) (rules : Rules) : Parser Node := do
  let line ← here
  let base ← atom n rules
  trailers n rules line n base

/-- A lambda: its parameters, then its body. -/
def lambda (n : Nat) (rules : Rules) : Parser Node := do
  let line ← here
  expectKeyword "lambda"
  let params ← parameters n rules false (.op ":")
  expectOp ":"
  let body ← rules .expression
  node line .other [params, body]

/-- A conditional expression has its test first among its parts. -/
def expression (n : Nat) (rules : Rules) : Parser Node := do
  if ← atKeyword "lambda" then lambda n rules
  else
    let line ← here
    let body ← rules .disjunction
    if ← acceptKeyword "if" then
      let test ← rules .disjunction
      expectKeyword "else"
      let otherwise ← rules .expression
      node line .other [test, body, otherwise]
    else pure body

end CodeIndex.Source.Expression
