import DesktopTags.Handle
import DesktopTags.Text.Unprintable

namespace DesktopTags.Text

/-- How one character stands in a quoted text: quotes and backslashes take a
backslash, four control characters have a letter, and what cannot be printed
is given by its number in hexadecimal. -/
def quotedChar (c : Char) : String :=
  if c = '"' then "\\\""
  else if c = '\\' then "\\\\"
  else if c = '\n' then "\\n"
  else if c = '\r' then "\\r"
  else if c = '\t' then "\\t"
  else if c = '\x00' then "\\0"
  else if isUnprintable c then "\\u\x7b" ++ hexDigits c.toNat ++ "\x7d"
  else String.singleton c

/-- A text between double quotes, safe to stand in one line. -/
def quoted (text : String) : String :=
  "\"" ++ String.join (text.toList.map quotedChar) ++ "\""

end DesktopTags.Text
