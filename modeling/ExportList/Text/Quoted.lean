import ExportList.Text.Printable

/-!
The quoted form of a text in messages: single quotes unless the text has one and no double quote,
with the quote in use, backslashes and invisible characters escaped.
-/

set_option autoImplicit false

namespace ExportList.Text

/-- The escaped form of an invisible code point, as short as its number allows. -/
def escapePoint (c : CodePoint) : Text :=
  if c.val < 0x100 then "\\x" ++ hex 2 c.val
  else if c.val < 0x10000 then "\\u" ++ hex 4 c.val
  else "\\U" ++ hex 8 c.val

def quotePoint (quote c : CodePoint) : Text :=
  if c = quote || c = CodePoint.ofChar '\\' then [(CodePoint.ofChar '\\'), c]
  else if c = CodePoint.ofChar '\t' then "\\t"
  else if c = CodePoint.ofChar '\n' then "\\n"
  else if c = CodePoint.ofChar '\r' then "\\r"
  else if c.isPrintable then [c]
  else escapePoint c

def quoteMark (t : Text) : CodePoint :=
  if t.contains (CodePoint.ofChar '\'') && !t.contains (CodePoint.ofChar '"') then
    CodePoint.ofChar '"'
  else CodePoint.ofChar '\''

def quoted (t : Text) : Text :=
  let quote := quoteMark t
  quote :: t.flatMap (quotePoint quote) ++ [quote]

end ExportList.Text
