import PhpOutline.Text.Printable

/-!
# A character between quotes

How a single character is shown in a message: between single quotes, with an escape where the
character would not show by itself.
-/

namespace PhpOutline.Text

/-- The character as it stands between the quotes. -/
def escapeChar (c : Char) : String :=
  if c = '\x00' then "\\0"
  else if c = '\t' then "\\t"
  else if c = '\r' then "\\r"
  else if c = '\n' then "\\n"
  else if c = '\'' then "\\'"
  else if c = '\\' then "\\\\"
  else if isPrintable c then c.toString
  else "\\u\x7b" ++ String.ofList (Nat.toDigits 16 c.toNat) ++ "\x7d"

/-- The character between single quotes. -/
def quoteChar (c : Char) : String := "'" ++ escapeChar c ++ "'"

end PhpOutline.Text
