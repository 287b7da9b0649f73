import DebugAdapter.Text.Integer
import DebugAdapter.Text.Visible
/-!
# Quoted texts

A text as a message shows it: between double quotes, with quotes, backslashes and invisible
characters escaped.
-/

namespace DebugAdapter.Text

/-- A character between double quotes. -/
def quotedChar (c : Char) : String :=
  if c = '\x00' then "\\0"
  else if c = '\t' then "\\t"
  else if c = '\r' then "\\r"
  else if c = '\n' then "\\n"
  else if c = '"' then "\\\""
  else if c = '\\' then "\\\\"
  else if isVisible c then String.singleton c
  else "\\u\x7b" ++ hexDigits c.toNat ++ "\x7d"

/-- A text between double quotes. -/
def quoted (s : String) : String :=
  "\"" ++ String.join (s.toList.map quotedChar) ++ "\""

end DebugAdapter.Text
