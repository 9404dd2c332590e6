import CodeIndex.Source.Token
import CodeIndex.Text.Identifier
import CodeIndex.Text.Lines
import CodeIndex.Text.NormalForm

/-!
Cutting Python source text into tokens.

Scanning goes on character by character with the state of the layout: the line, the open brackets
and the open indentations. Between brackets line ends and indentation mean nothing. A text that
cannot be cut has no tokens at all. Every pass of the loop but the one at the start of a line
takes a character, which bounds the number of passes.
-/

namespace CodeIndex.Source.Scan

open CodeIndex.Text

/-- Most indentations that may be open at a time, counting the outermost. -/
def maxIndents : Nat := 100

/-- Most brackets that may be open at a time. -/
def maxBrackets : Nat := 200

/-- Most digits of a decimal integer. -/
def maxDecimalDigits : Nat := 4300

/-- The depth of an indentation by two measures of a tab, which have to agree. -/
structure Indent where
  column : Nat
  tabless : Nat
  deriving DecidableEq, Repr

structure Layout where
  line : Nat
  brackets : List Char
  /-- Open indentations, the innermost first; the outermost is not listed. -/
  indents : List Indent
  deriving Repr

/-- Characters taken into a name before it is checked. -/
def isNameChar (c : Char) : Bool :=
  c.isAlphanum || c == '_' || 128 ≤ c.toNat

def isNameStart (c : Char) : Bool :=
  c.isAlpha || c == '_' || 128 ≤ c.toNat

/-! ### Numbers -/

/-- Drops the digits, possibly in groups joined by single low lines, that follow a digit. -/
def afterDigits (isDigit : Char → Bool) : List Char → Option (List Char)
  | [] => some []
  | ['_'] => none
  | '_' :: d :: rest => if isDigit d then afterDigits isDigit rest else none
  | c :: rest => if isDigit c then afterDigits isDigit rest else some (c :: rest)

/-- Drops the digits that follow the mark of a base: at least one, a low line before it allowed. -/
def afterBaseMark (isDigit : Char → Bool) : List Char → Option (List Char)
  | '_' :: d :: rest => if isDigit d then afterDigits isDigit rest else none
  | d :: rest => if isDigit d then afterDigits isDigit rest else none
  | [] => none

/-- Words that may follow a number without a blank. -/
def wordsAfterNumber : List String := ["and", "else", "for", "if", "in", "is", "or", "not"]

/-- A number may end before this text. -/
def numberEnds (rest : List Char) : Bool :=
  wordsAfterNumber.any (fun w => w.toList.isPrefixOf rest) ||
    match rest with
    | [] => true
    | c :: _ => !isNameChar c

def endNumber (imaginary : Bool) (rest : List Char) : Option (Bool × List Char) :=
  if numberEnds rest then some (imaginary, rest) else none

/-- An optional mark of an imaginary number. -/
def afterReal : List Char → Option (Bool × List Char)
  | 'j' :: rest => endNumber true rest
  | 'J' :: rest => endNumber true rest
  | rest => endNumber false rest

/-- An optional exponent. A letter `e` without digits is left alone where the word `else` stands. -/
def afterFraction (text : List Char) : Option (Bool × List Char) :=
  match text with
  | e :: rest =>
    if e == 'e' || e == 'E' then
      match rest with
      | d :: more =>
        if d.isDigit then (afterDigits Char.isDigit more).bind afterReal
        else if d == '+' || d == '-' then
          match more with
          | d' :: more =>
            if d'.isDigit then (afterDigits Char.isDigit more).bind afterReal else none
          | [] => none
        else if "else".toList.isPrefixOf text then some (false, text) else none
      | [] => none
    else afterReal text
  | [] => afterReal []

/-- What follows a decimal point. -/
def afterPoint : List Char → Option (Bool × List Char)
  | d :: rest =>
    if d.isDigit then (afterDigits Char.isDigit rest).bind afterFraction
    else afterFraction (d :: rest)
  | [] => afterFraction []

/-- Reads a number that starts with a decimal digit: whether it is imaginary, and the rest. -/
def number (text : List Char) : Option (Bool × List Char) :=
  match text with
  | '0' :: x :: rest =>
    if x == 'x' || x == 'X' then
      (afterBaseMark isHexDigit rest).bind (endNumber false)
    else if x == 'o' || x == 'O' then
      (afterBaseMark (fun c => '0' ≤ c && c ≤ '7') rest).bind (endNumber false)
    else if x == 'b' || x == 'B' then
      (afterBaseMark (fun c => c == '0' || c == '1') rest).bind (endNumber false)
    else decimal text
  | _ => decimal text
where
  isHexDigit (c : Char) : Bool :=
    c.isDigit || ('a' ≤ c && c ≤ 'f') || ('A' ≤ c && c ≤ 'F')
  /-- A decimal integer other than zero has no leading zero, and not too many digits. -/
  integerAllowed (digits : List Char) : Bool :=
    let digits := digits.filter Char.isDigit
    digits.length ≤ maxDecimalDigits && (digits.head? != some '0' || digits.all (· == '0'))
  decimal (text : List Char) : Option (Bool × List Char) :=
    (afterDigits Char.isDigit (text.drop 1)).bind fun rest =>
      match rest with
      | '.' :: more => afterPoint more
      | c :: _ =>
        if c == 'e' || c == 'E' || c == 'j' || c == 'J' then
          (afterFraction rest).bind fun done =>
            if done.2.length < rest.length || integerAllowed (text.take (text.length - rest.length))
            then some done else none
        else if integerAllowed (text.take (text.length - rest.length)) then endNumber false rest
        else none
      | [] => if integerAllowed text then endNumber false [] else none

/-! ### Strings -/

/-- Reads up to the quote that ends a string of one line, of which the characters read so far stand
in reverse. -/
def lineString (quote : Char) (done : List Char) : List Char → Option (List Char × List Char)
  | [] => none
  | '\\' :: c :: rest => lineString quote (c :: '\\' :: done) rest
  | c :: rest =>
    if c == quote then some (done.reverse, rest)
    else if c == '\n' then none
    else lineString quote (c :: done) rest

/-- Reads up to the three quotes that end a string of several lines. -/
def blockString (quote : Char) (done : List Char) : List Char → Option (List Char × List Char)
  | [] => none
  | '\\' :: c :: rest => blockString quote (c :: '\\' :: done) rest
  | c :: rest =>
    if c == quote && [quote, quote].isPrefixOf rest then some (done.reverse, rest.drop 2)
    else blockString quote (c :: done) rest

/-- Reads a string from its opening quote. -/
def quotedString : List Char → Option (List Char × List Char)
  | [] => none
  | quote :: rest =>
    if [quote, quote].isPrefixOf rest then blockString quote [] (rest.drop 2)
    else lineString quote [] rest

def isQuote (c : Char) : Bool :=
  c == '"' || c == '\''

/-- The marks in front of a string and the text from its quote on, if a string starts here: none,
or one of `b`, `u`, `r`, `f`, or `r` together with `b` or `f`, in either case and order. -/
def stringMarks : List Char → Option (List Char × List Char)
  | a :: b :: c :: rest =>
    if isQuote a then some ([], a :: b :: c :: rest)
    else if isQuote b then
      if ['b', 'u', 'r', 'f'].contains a.toLower then some ([a.toLower], b :: c :: rest) else none
    else if isQuote c then
      let marks := [a.toLower, b.toLower]
      if [['b', 'r'], ['r', 'b'], ['f', 'r'], ['r', 'f']].contains marks then
        some (marks, c :: rest)
      else none
    else none
  | [a, b] =>
    if isQuote a then some ([], [a, b])
    else if isQuote b && ['b', 'u', 'r', 'f'].contains a.toLower then some ([a.toLower], [b])
    else none
  | [a] => if isQuote a then some ([], [a]) else none
  | [] => none

/-! ### Layout -/

/-- What stands at the start of a line: its indentation and the text after it. -/
structure LineStart where
  indent : Indent
  line : Nat
  rest : List Char

/-- Measures the indentation of a line. A form feed starts the count anew; when a backslash joins
the line to the next, the indentation in front of the first one counts, unless it is empty. -/
def lineStart (now joined : Indent) (line : Nat) : List Char → Option LineStart
  | ' ' :: rest => lineStart ⟨now.column + 1, now.tabless + 1⟩ joined line rest
  | '\t' :: rest => lineStart ⟨(now.column / 8 + 1) * 8, now.tabless + 1⟩ joined line rest
  | '\x0c' :: rest => lineStart ⟨0, 0⟩ joined line rest
  | '\\' :: '\n' :: rest =>
    if rest.isEmpty then none
    else
      lineStart now (if joined.column = 0 then ⟨now.column, now.column⟩ else joined) (line + 1) rest
  | '\\' :: _ => none
  | rest => some ⟨if joined.column = 0 then now else joined, line, rest⟩

/-- Closes the indentations deeper than the given one: their number and what stays open. -/
def closeIndents (indent : Indent) : List Indent → Nat × List Indent
  | [] => (0, [])
  | top :: others =>
    if indent.column < top.column then
      let (count, open') := closeIndents indent others
      (count + 1, open')
    else (0, top :: others)

/-- The change of the open indentations at the start of a logical line: the layout tokens it takes
and the indentations after it. -/
def indentTo (indent : Indent) (indents : List Indent) : Option (List TokenKind × List Indent) :=
  let top := indents.head?.getD ⟨0, 0⟩
  if indent.column = top.column then
    if indent.tabless = top.tabless then some ([], indents) else none
  else if top.column < indent.column then
    if indents.length + 2 ≤ maxIndents && top.tabless < indent.tabless then
      some ([.indent], indent :: indents)
    else none
  else
    let (count, open') := closeIndents indent indents
    if open'.head?.getD ⟨0, 0⟩ = indent then some (List.replicate count .dedent, open') else none

def closes : Char → Char → Bool
  | '(', ')' => true
  | '[', ']' => true
  | '\x7b', '\x7d' => true
  | _, _ => false

/-- The open brackets after an operator: an opening one is added, a closing one has to match. -/
def bracketsAfter (sign : String) (brackets : List Char) : Option (List Char) :=
  match sign.toList with
  | [c] =>
    if c == '(' || c == '[' || c == '\x7b' then
      if brackets.length < maxBrackets then some (c :: brackets) else none
    else if c == ')' || c == ']' || c == '\x7d' then
      match brackets with
      | b :: others => if closes b c then some others else none
      | [] => none
    else some brackets
  | _ => some brackets

/-! ### The loop -/

/-- The token of a word: a keyword, or a name in its normal form. -/
def nameToken (text : List Char) : Option TokenKind :=
  let word := String.ofList text
  if text.all (fun c => c.toNat < 128) || isIdentifier text then
    some (if keywords.contains word then .keyword word
      else .name (String.ofList (normalForm text)))
  else none

/-- One step inside a line: the tokens found, whether a line starts now, the layout and the rest. -/
def step (layout : Layout) (text : List Char) :
    Option (List Token × Bool × Layout × List Char) :=
  let one (kind : TokenKind) : Token := ⟨kind, layout.line, layout.line⟩
  match text with
  | [] => none
  | '\n' :: rest =>
    let next := { layout with line := layout.line + 1 }
    some (if layout.brackets.isEmpty then [one .newline] else [], true, next, rest)
  | '\\' :: rest =>
    match rest with
    | '\n' :: c :: more => some ([], false, { layout with line := layout.line + 1 }, c :: more)
    | _ => none
  | '#' :: rest => some ([], false, layout, rest.dropWhile (· != '\n'))
  | c :: rest =>
    if c == ' ' || c == '\t' || c == '\x0c' then some ([], false, layout, rest)
    else
      match stringMarks text with
      | some (marks, quoted) =>
        (quotedString quoted).bind fun (body, rest) =>
          let endLine := layout.line + body.count '\n'
          let literal : StringToken :=
            ⟨marks.contains 'b', marks.contains 'r', marks.contains 'f', body⟩
          some ([⟨.string literal, layout.line, endLine⟩], false, { layout with line := endLine },
            rest)
      | none =>
        if isNameStart c then
          (nameToken (text.takeWhile isNameChar)).bind fun kind =>
            some ([one kind], false, layout, text.dropWhile isNameChar)
        else if c.isDigit then
          (number text).bind fun (imaginary, rest) =>
            some ([one (.number imaginary)], false, layout, rest)
        else if c == '.' && (rest.head?.map Char.isDigit).getD false then
          (afterPoint rest).bind fun (imaginary, rest) =>
            some ([one (.number imaginary)], false, layout, rest)
        else
          (operators.find? fun o => o.toList.isPrefixOf text).bind fun sign =>
            (bracketsAfter sign layout.brackets).bind fun brackets =>
              some ([one (.op sign)], false, { layout with brackets }, text.drop sign.length)

/-- The start of a line: a blank one is passed over, another may change the indentation. -/
def startLine (layout : Layout) (text : List Char) :
    Option (List Token × Bool × Layout × List Char) :=
  (lineStart ⟨0, 0⟩ ⟨0, 0⟩ layout.line text).bind fun start =>
    let layout := { layout with line := start.line }
    let content := match start.rest with
      | '#' :: rest => rest.dropWhile (· != '\n')
      | rest => rest
    match start.rest, content with
    | '#' :: _, '\n' :: rest => some ([], true, { layout with line := layout.line + 1 }, rest)
    | '\n' :: rest, _ => some ([], true, { layout with line := layout.line + 1 }, rest)
    | rest, _ =>
      if layout.brackets.isEmpty then
        (indentTo start.indent layout.indents).bind fun (kinds, indents) =>
          some (kinds.map (fun k => ⟨k, layout.line, layout.line⟩), false,
            { layout with indents }, rest)
      else some ([], false, layout, rest)

/-- Scans with a bound on the number of passes; `done` holds the tokens so far in reverse. -/
def loop : Nat → Bool → Layout → List Token → List Char → Option (List Token)
  | 0, _, _, _, _ => none
  | n + 1, atLineStart, layout, done, text =>
    if atLineStart then
      (startLine layout text).bind fun (tokens, atLineStart, layout, rest) =>
        loop n atLineStart layout (tokens.reverse ++ done) rest
    else if text.isEmpty then
      if layout.brackets.isEmpty then
        some ((⟨.endMarker, layout.line, layout.line⟩ :: done).reverse)
      else none
    else
      (step layout text).bind fun (tokens, atLineStart, layout, rest) =>
        loop n atLineStart layout (tokens.reverse ++ done) rest

/-- The text with a line feed at its end, unless it is empty or has one. -/
def withLastLine (text : List Char) : List Char :=
  match text.getLast? with
  | none => []
  | some c => if c == '\n' then text else text ++ ['\n']

end Scan

/-- The tokens of a text whose first line has the given number. A byte order mark in front and the
character NUL anywhere are refused. -/
def tokens? (firstLine : Nat) (text : List Char) : Option (List Token) :=
  if text.contains '\x00' then none
  else
    let text := Scan.withLastLine (Text.unixLines text)
    Scan.loop (2 * text.length + 2) true ⟨firstLine, [], []⟩ [] text

end CodeIndex.Source
