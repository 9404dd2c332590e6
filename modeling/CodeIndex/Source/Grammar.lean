import CodeIndex.Source.Statement

/-!
The rules of the grammar tied together, and the syntax tree of a module.

`rulesUpTo n` lets rules call each other to the depth `n`. Between two calls that do not pass a
character there are fewer calls than there are rules, so a depth in proportion to the length of the
text is never reached.
-/

namespace CodeIndex.Source

/-- The body of a rule. -/
def ruleBody (n : Nat) (rules : Rules) : Rules
  | .expression => Expression.expression n rules
  | .disjunction => Expression.disjunction n rules
  | .inversion => Expression.inversion n rules
  | .operand => Expression.operand n rules
  | .factor => Expression.factor n rules
  | .primary => Expression.primary n rules
  | .pattern => Pattern.pattern n rules
  | .block => Statement.block n rules

/-- The rules, with calls nested no deeper than the bound. -/
def rulesUpTo : Nat → Rule → ParserState → Option (Node × ParserState)
  | 0, _, _ => none
  | n + 1, rule, state => ruleBody n (rulesUpTo n) rule state

/-- The tree of a module from its tokens. -/
def moduleOfTokens (depth : Nat) : Parser Node := do
  let statements ← Statement.statementsUntil .endMarker depth (rulesUpTo depth)
  Parser.expect .endMarker
  Parser.node 1 .module (Statement.inBody statements)

/-- The syntax tree of a text, if it is a module of the language. -/
def module? (text : String) : Option Node :=
  let chars := text.toList
  (tokens? 1 chars).bind fun tokens =>
    ((moduleOfTokens (10 * (chars.length + 10))).run ⟨tokens, 1⟩).map (·.1)

end CodeIndex.Source
