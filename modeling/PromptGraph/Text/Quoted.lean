import PromptGraph.Text.Hex
import PromptGraph.Text.Printable

/-!
# `PromptGraph.Text.Quoted` — texts as messages show them

A quoted text stands in single quotes, or in double quotes when it holds single quotes and no double ones.
The backslash and the quote in use are escaped, line feeds, returns and tabs have short forms, and every other
character that is not printable is written by its code point.
-/

namespace PromptGraph.Text

/-- One character inside a quoted text. -/
def quotedChar (quote c : Char) : List Char :=
  if c = quote ∨ c = '\\' then ['\\', c]
  else if c = '\t' then ['\\', 't']
  else if c = '\n' then ['\\', 'n']
  else if c = '\r' then ['\\', 'r']
  else if isPrintable c then [c]
  else if c.toNat < 0x100 then '\\' :: 'x' :: hexPadded 2 c.toNat
  else if c.toNat < 0x10000 then '\\' :: 'u' :: hexPadded 4 c.toNat
  else '\\' :: 'U' :: hexPadded 8 c.toNat

/-- A quoted text. -/
def quoted (s : String) : String :=
  let cs := s.toList
  let quote := if cs.contains '\'' && !cs.contains '"' then '"' else '\''
  String.ofList (quote :: (cs.flatMap (quotedChar quote) ++ [quote]))

end PromptGraph.Text
