import GoDecorator.Text.Printable

/-!
# Quoted text

How a text or a single character is shown inside a message: between quotes, with a backslash before
the quote itself and before a backslash, short escapes for the usual control characters, and the
code point in hexadecimal for any other character that does not show.
-/

namespace GoDecorator.Text

/-- A code point in lower-case hexadecimal, without leading zeros. -/
def hex (n : Nat) : String := String.ofList (Nat.toDigits 16 n)

/-- The character as it stands between two of the given quotes. -/
def escape (quote c : Char) : String :=
  if c = '\x00' then "\\0"
  else if c = '\t' then "\\t"
  else if c = '\r' then "\\r"
  else if c = '\n' then "\\n"
  else if c = '\\' then "\\\\"
  else if c = quote then "\\" ++ String.singleton c
  else if isPrintable c then String.singleton c
  else "\\u\x7b" ++ hex c.toNat ++ "\x7d"

/-- The text between double quotes. -/
def quoted (s : String) : String :=
  "\"" ++ String.join (s.toList.map (escape '"')) ++ "\""

/-- The character between single quotes. -/
def quotedChar (c : Char) : String := "'" ++ escape '\'' c ++ "'"

end GoDecorator.Text
