import CodeIndex.Text.Printable

/-!
Quoted text, as it is shown in messages: between single quotes, or between double quotes when it
holds single quotes only, with escapes for the quote, the backslash and what cannot be shown.
-/

namespace CodeIndex.Text

/-- The lowest `count` hexadecimal digits of a number. -/
def hexOf (count n : Nat) : List Char :=
  (List.range count).reverse.map fun i => Nat.digitChar (n >>> (4 * i) % 16)

def quotedChar (quote c : Char) : List Char :=
  let n := c.toNat
  if c == quote || c == '\\' then ['\\', c]
  else if c == '\t' then ['\\', 't']
  else if c == '\n' then ['\\', 'n']
  else if c == '\r' then ['\\', 'r']
  else if isPrintable c then [c]
  else if n < 0x100 then ['\\', 'x'] ++ hexOf 2 n
  else if n < 0x10000 then ['\\', 'u'] ++ hexOf 4 n
  else ['\\', 'U'] ++ hexOf 8 n

def quoted (s : List Char) : List Char :=
  let quote := if s.contains '\'' && !s.contains '"' then '"' else '\''
  quote :: s.flatMap (quotedChar quote) ++ [quote]

end CodeIndex.Text
