import CodeIndex.Source.Token
import CodeIndex.Text.CodePoint

/-!
The inside of string literals: escapes, and the fields of format strings.

A field of a format string is an expression between braces, with an optional conversion and an
optional format, which may hold fields once more. Only the fields are kept of a format string, the
text around them is checked. Named characters (`\N`) are taken by their form: any name is accepted
and reads as the replacement character.
-/

namespace CodeIndex.Source

namespace Literal

def hexValue? (c : Char) : Option Nat :=
  if c.isDigit then some (c.toNat - '0'.toNat)
  else if 'a' ≤ c && c ≤ 'f' then some (c.toNat - 'a'.toNat + 10)
  else if 'A' ≤ c && c ≤ 'F' then some (c.toNat - 'A'.toNat + 10)
  else none

/-- The value of exactly `count` hexadecimal digits. -/
def hexDigits? : Nat → Nat → List Char → Option Nat
  | 0, value, _ => some value
  | _ + 1, _, [] => none
  | n + 1, value, c :: rest => (hexValue? c).bind fun d => hexDigits? n (16 * value + d) rest

def isOctal (c : Char) : Bool :=
  '0' ≤ c && c ≤ '7'

/-- Escapes of one letter. -/
def simpleEscape? : Char → Option Char
  | '\\' => some '\\'
  | '\'' => some '\''
  | '"' => some '"'
  | 'a' => some '\x07'
  | 'b' => some '\x08'
  | 'f' => some '\x0c'
  | 'n' => some '\n'
  | 'r' => some '\r'
  | 't' => some '\t'
  | 'v' => some '\x0b'
  | _ => none

/-- The number of hexadecimal digits after the letter of an escape. -/
def escapeWidth? (isBytes : Bool) : Char → Option Nat
  | 'x' => some 2
  | 'u' => if isBytes then none else some 4
  | 'U' => if isBytes then none else some 8
  | _ => none

/-- Replaces escapes; the first `skip` characters belong to an escape already replaced. A backslash
that starts no escape stands for itself, an escape that breaks off is refused. -/
def unescapeFrom (isBytes : Bool) (skip : Nat) : List Char → Option Text.CodeText
  | [] => some []
  | c :: rest =>
    match skip with
    | k + 1 => unescapeFrom isBytes k rest
    | 0 =>
      if c != '\\' then (unescapeFrom isBytes 0 rest).map (.char c :: ·)
      else
        match rest with
        | [] => some [.char '\\']
        | e :: more =>
          if e == '\n' then unescapeFrom isBytes 1 rest
          else
            match simpleEscape? e with
            | some value => (unescapeFrom isBytes 1 rest).map (.char value :: ·)
            | none =>
              if isOctal e then
                let digits := (e :: more.take 2).takeWhile isOctal
                let value := digits.foldl (fun v d => 8 * v + (d.toNat - '0'.toNat)) 0
                (unescapeFrom isBytes digits.length rest).map (.ofNat value :: ·)
              else
                match escapeWidth? isBytes e with
                | some width =>
                  (hexDigits? width 0 more).bind fun value =>
                    if value ≤ 0x10FFFF then
                      (unescapeFrom isBytes (width + 1) rest).map (.ofNat value :: ·)
                    else none
                | none =>
                  if e == 'N' && !isBytes then
                    let name := (more.drop 1).takeWhile (· != '\x7d')
                    if more.head? == some '\x7b' && !name.isEmpty &&
                        name.length + 1 < more.length then
                      (unescapeFrom isBytes (name.length + 3) rest).map (.char '�' :: ·)
                    else none
                  else (unescapeFrom isBytes 0 rest).map (.char '\\' :: ·)

/-- The text that a literal stands for. Bytes are ASCII only. -/
def value? (literal : StringToken) : Option Text.CodeText :=
  if literal.isBytes && literal.body.any (fun c => 128 ≤ c.toNat) then none
  else if literal.isRaw then some (.ofList literal.body)
  else unescapeFrom literal.isBytes 0 literal.body

/-- An expression in a format string: its text, the number of line feeds of the literal before it,
and the fields of its format. -/
inductive Field where
  | mk (source : List Char) (line : Nat) (format : List Field)

/-- A run of literal text: the text, whether it ended in a doubled brace, and the rest. -/
structure Run where
  text : List Char
  doubled : Bool
  rest : List Char

/-- Reads literal text up to a brace, of which `done` has been read, in reverse. Outside of formats
a doubled brace stands for one, and a lone closing brace is refused. -/
def literalRun (isRaw inFormat : Bool) (done : List Char) : List Char → Option Run
  | [] => some ⟨done.reverse, false, []⟩
  | c :: rest =>
    if c == '\\' && !isRaw then
      match rest with
      | [] => some ⟨('\\' :: done).reverse, false, []⟩
      | 'N' :: '\x7b' :: more => namedRun ('\x7b' :: 'N' :: '\\' :: done) more
      | 'N' :: more => literalRun isRaw inFormat ('N' :: '\\' :: done) more
      | e :: more =>
        if e == '\x7b' || e == '\x7d' then brace ('\\' :: done) e more
        else literalRun isRaw inFormat (e :: '\\' :: done) more
    else if c == '\x7b' || c == '\x7d' then brace done c rest
    else literalRun isRaw inFormat (c :: done) rest
where
  /-- A brace in literal text. -/
  brace (done : List Char) (b : Char) (rest : List Char) : Option Run :=
    if inFormat then some ⟨done.reverse, false, b :: rest⟩
    else if rest.head? == some b then some ⟨(b :: done).reverse, true, rest.drop 1⟩
    else if b == '\x7d' then none
    else some ⟨done.reverse, false, b :: rest⟩
  /-- The rest of a named character. -/
  namedRun (done : List Char) : List Char → Option Run
  | [] => some ⟨done.reverse, false, []⟩
  | c :: rest =>
    if c == '\x7d' then literalRun isRaw inFormat (c :: done) rest
    else namedRun (c :: done) rest

/-- The quote a scanned expression is inside of, and whether it is a triple one. -/
abbrev OpenQuote := Option (Char × Bool)

def opens (c : Char) : Bool :=
  c == '(' || c == '[' || c == '\x7b'

def matching : Char → Char
  | ')' => '('
  | ']' => '['
  | _ => '\x7b'

/-- What a character of a scanned expression amounts to. -/
inductive Scanned where
  /-- It is part of the expression, with the next `more` characters, after which a quote or
  brackets are open. -/
  | inside (more : Nat) (quote : OpenQuote) (brackets : List Char)
  /-- The expression ends before it. -/
  | ended
  | refused

/-- Looks at a character outside of quotes. A closing brace, an exclamation mark, a colon and an
equals sign that belong to no comparison end an expression outside of brackets. -/
def scanOutside (brackets : List Char) (c : Char) (rest : List Char) : Scanned :=
  if c == '\'' || c == '"' then
    if [c, c].isPrefixOf rest then .inside 2 (some (c, true)) brackets
    else .inside 0 (some (c, false)) brackets
  else if opens c then .inside 0 none (c :: brackets)
  else if c == '#' then .refused
  else if brackets.isEmpty then
    if (c == '!' || c == '=' || c == '<' || c == '>') && rest.head? == some '=' then
      .inside 1 none brackets
    else if c == '!' || c == ':' || c == '\x7d' || c == '=' then .ended
    else if c == ')' || c == ']' then .refused
    else .inside 0 none brackets
  else if c == ')' || c == ']' || c == '\x7d' then
    if brackets.head? == some (matching c) then .inside 0 none (brackets.drop 1) else .refused
  else .inside 0 none brackets

/-- Looks at a character of an expression. Backslashes are refused, also in quotes. -/
def scanChar (quote : OpenQuote) (brackets : List Char) (c : Char) (rest : List Char) : Scanned :=
  if c == '\\' then .refused
  else
    match quote with
    | none => scanOutside brackets c rest
    | some (q, triple) =>
      if c != q then .inside 0 quote brackets
      else if !triple then .inside 0 none brackets
      else if [q, q].isPrefixOf rest then .inside 2 none brackets
      else .inside 0 quote brackets

/-- Reads the expression of a field up to the character that ends it; the next `skip` characters
have been looked at. -/
def expressionEnd (quote : OpenQuote) (brackets : List Char) (skip : Nat) (done : List Char) :
    List Char → Option (List Char × List Char)
  | [] => none
  | c :: rest =>
    match skip with
    | k + 1 => expressionEnd quote brackets k (c :: done) rest
    | 0 =>
      match scanChar quote brackets c rest with
      | .inside more quote brackets => expressionEnd quote brackets more (c :: done) rest
      | .ended => some (done.reverse, c :: rest)
      | .refused => none

/-- Drops the sign that asks for the expression's own text, and the blanks after it. -/
def afterSelfText : List Char → List Char
  | '=' :: rest => rest.dropWhile fun c => c == ' ' || ('\x09' ≤ c && c ≤ '\x0d')
  | rest => rest

/-- Drops a conversion: one of `s`, `r` and `a`. -/
def afterConversion : List Char → Option (List Char)
  | '!' :: c :: e :: rest =>
    if (c == 's' || c == 'r' || c == 'a') && (e == '\x7d' || e == ':') then some (e :: rest)
    else none
  | '!' :: _ => none
  | rest => some rest

def newlines (s : List Char) : Nat :=
  s.count '\n'

/-- The fields of a format string, or of a format when `depth` is below its start of two, with the
text that follows them: nothing, or the brace that ends the format. -/
def fieldsFrom (isRaw : Bool) : Nat → Nat → Nat → List Char → Option (List Field × List Char)
  | 0, _, _, _ => none
  | n + 1, depth, line, text =>
    (literalRun isRaw (depth != 2) [] text).bind fun run =>
      (if isRaw then some (.ofList run.text) else unescapeFrom false 0 run.text).bind fun _ =>
        let line := line + newlines (text.take (text.length - run.rest.length))
        if run.doubled then fieldsFrom isRaw n depth line run.rest
        else
          match run.rest with
          | '\x7b' :: inside =>
            match depth with
            | 0 => none
            | deeper + 1 =>
              (expressionEnd none [] 0 [] inside).bind fun (source, rest) =>
                if source.all (fun c => c == ' ' || c == '\t' || c == '\n' || c == '\x0c') then none
                else
                  (afterConversion (afterSelfText rest)).bind fun rest =>
                    match rest with
                    | ':' :: format =>
                      let seen := newlines (run.rest.take (run.rest.length - format.length))
                      (fieldsFrom isRaw n deeper (line + seen) format).bind fun (inner, rest) =>
                        match rest with
                        | '\x7d' :: after =>
                          let seen := newlines (run.rest.take (run.rest.length - after.length))
                          (fieldsFrom isRaw n depth (line + seen) after).map fun (others, rest) =>
                            (.mk source line inner :: others, rest)
                        | _ => none
                    | '\x7d' :: after =>
                      let seen := newlines (run.rest.take (run.rest.length - after.length))
                      (fieldsFrom isRaw n depth (line + seen) after).map fun (others, rest) =>
                        (.mk source line [] :: others, rest)
                    | _ => none
          | rest => some ([], rest)

/-- The fields of a format string, in order. -/
def fields? (literal : StringToken) : Option (List Field) :=
  (fieldsFrom literal.isRaw (literal.body.length + 1) 2 0 literal.body).bind fun (fields, rest) =>
    if rest.isEmpty then some fields else none

end Literal

end CodeIndex.Source
