import CodeIndex.Text.Blank
import CodeIndex.Text.Lines

/-!
The entry of an ignore file that keeps the index itself out of the index.
-/

namespace CodeIndex.Ignore

open CodeIndex.Text

/-- The directory of the index. -/
def entry : List Char := ".mcp-code-search/".toList

/-- The entry is one of the lines. -/
def hasEntry (lines : List (List Char)) : Bool :=
  lines.any fun line => trim line == entry

/-- The remark in front of the entry. -/
def entryRemark : List Char := "\n# MCP Code Search database\n".toList

/-- What is put at the end of an ignore file, given its text, so that it has the entry. -/
def entryAddition (text : List Char) : List Char :=
  let found := lines (unixLines text)
  if hasEntry found then []
  else (if found.isEmpty then [] else ['\n']) ++ entryRemark ++ entry ++ ['\n']

/-- The ignore file with the entry. -/
def withEntry (text : List Char) : List Char :=
  text ++ entryAddition text

end CodeIndex.Ignore
