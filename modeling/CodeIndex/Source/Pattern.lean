import CodeIndex.Source.Expression

/-!
The grammar of the patterns of a `match` statement.

A pattern is one or more closed patterns joined by bars, with an optional name for the whole. What a
closed pattern is shows at its first tokens.
-/

namespace CodeIndex.Source.Pattern

open CodeIndex.Source.Parser

/-- A name that a pattern binds: not the wildcard, and not the start of a dotted name, a class
pattern or a keyword. -/
def captureTarget : Parser String := do
  let id ← name
  if id == "_" || (← atOp ".") || (← atOp "(") || (← atOp "=") then failure
  pure id

/-- A number with an optional sign. -/
def signedNumber : Parser Bool := do
  let _ ← acceptOp "-"
  match ← peek with
  | .number imaginary =>
    let _ ← advance
    pure imaginary
  | _ => failure

/-- A number, or a real number plus or minus an imaginary one. -/
def numberPattern : Parser Node := do
  let line ← here
  let imaginary ← signedNumber
  if (← atOp "+") || (← atOp "-") then
    let _ ← advance
    match ← peek with
    | .number true =>
      if imaginary then failure
      let _ ← advance
      node line .other []
    | _ => failure
  else node line .other []

/-- A constant: a number, strings, or one of the three keywords. -/
def literal (n : Nat) (rules : Rules) : Parser Node := do
  let line ← here
  match ← peek with
  | .number _ | .op "-" => numberPattern
  | .string _ =>
    let text ← Expression.strings n rules
    node line .other [text]
  | .keyword word =>
    if ["True", "False", "None"].contains word then
      let _ ← advance
      node line .other []
    else failure
  | _ => failure

/-- Names joined by dots, as an expression. -/
def dottedName (n : Nat) : Parser Node := do
  let line ← here
  let id ← name
  let first ← node line (.name id) []
  let others ← collect (do if ← acceptOp "." then return some (← name) else pure none) n
  others.foldlM (fun value id => node line (.member id) [value]) first

/-- A starred name in a sequence, or a pattern. -/
def starOrPattern (rules : Rules) : Parser Node := do
  let line ← here
  if ← acceptOp "*" then
    match ← peek with
    | .name "_" =>
      let _ ← advance
      node line .other []
    | _ =>
      let _ ← captureTarget
      node line .other []
  else rules .pattern

/-- One item of a mapping pattern: key and pattern, or the name for the rest. -/
def mappingItem (n : Nat) (rules : Rules) : Parser (List Node × List Node × Bool) := do
  if ← acceptOp "**" then
    let _ ← captureTarget
    pure ([], [], true)
  else
    let key ← match ← peek with
      | .name _ => do
        let key ← dottedName n
        match key.form with
        | .member _ => pure key
        | _ => failure
      | _ => literal n rules
    expectOp ":"
    let value ← rules .pattern
    pure ([key], [value], false)

/-- After an opening brace: keys with patterns; a name for the rest only at the end. -/
def mapping (n : Nat) (rules : Rules) (line : Nat) : Parser Node := do
  let items ← Expression.itemsUntil "\x7d" (mappingItem n rules) n
  if items.dropLast.any (·.2.2) then failure
  node line .other (items.flatMap (·.1) ++ items.flatMap (·.2.1))

/-- One argument of a class pattern, and whether it is a keyword. -/
def classArgument (rules : Rules) : Parser (Node × Bool) := do
  match ← peek, ← peekSecond with
  | .name _, .op "=" =>
    let _ ← advance
    let _ ← advance
    return (← rules .pattern, true)
  | _, _ => return (← rules .pattern, false)

/-- After the opening parenthesis of a class pattern: plain patterns come before keywords. -/
def classPattern (n : Nat) (rules : Rules) (line : Nat) (cls : Node) : Parser Node := do
  let items ← Expression.itemsUntil ")" (classArgument rules) n
  if (items.dropWhile (fun i => !i.2)).any (fun i => !i.2) then failure
  node line .other (cls :: items.map (·.1))

/-- A pattern that starts with a name: the wildcard, a name to bind, a value or a class. -/
def namePattern (n : Nat) (rules : Rules) (line : Nat) : Parser Node := do
  match ← peek with
  | .name "_" =>
    let _ ← advance
    node line .other []
  | _ =>
    let dotted ← dottedName n
    if ← acceptOp "(" then classPattern n rules line dotted
    else if ← atOp "=" then failure
    else
      match dotted.form with
      | .member _ => node line .other [dotted]
      | _ => node line .other []

/-- After an opening parenthesis: a group when there is one pattern and no comma, else a sequence.
-/
def parenthesised (n : Nat) (rules : Rules) (line : Nat) : Parser Node := do
  if ← acceptOp ")" then node line .other []
  else
    let starred ← atOp "*"
    let first ← starOrPattern rules
    if ← acceptOp "," then
      let others ← Expression.itemsUntil ")" (starOrPattern rules) n
      node line .other (first :: others)
    else if starred then failure
    else
      expectOp ")"
      pure first

def closedPattern (n : Nat) (rules : Rules) : Parser Node := do
  let line ← here
  match ← peek with
  | .name _ => namePattern n rules line
  | .op "(" =>
    let _ ← advance
    parenthesised n rules line
  | .op "[" =>
    let _ ← advance
    let items ← Expression.itemsUntil "]" (starOrPattern rules) n
    node line .other items
  | .op "\x7b" =>
    let _ ← advance
    mapping n rules line
  | _ => literal n rules

/-- Closed patterns joined by bars, with an optional name. -/
def pattern (n : Nat) (rules : Rules) : Parser Node := do
  let line ← here
  let first ← closedPattern n rules
  let others ← collect (do
    if ← acceptOp "|" then return some (← closedPattern n rules) else pure none) n
  if ← acceptKeyword "as" then
    let _ ← captureTarget
    node line .other (first :: others)
  else if others.isEmpty then pure first
  else node line .other (first :: others)

/-- The patterns of a case: one, or a sequence without brackets. -/
def patterns (n : Nat) (rules : Rules) : Parser Node := do
  let line ← here
  let starred ← atOp "*"
  let (items, comma) ←
    commaList (starOrPattern rules) (return !((← atOp ":") || (← atKeyword "if"))) n
  match items, comma with
  | [item], false => if starred then failure else pure item
  | _, _ => node line .other items

end CodeIndex.Source.Pattern
