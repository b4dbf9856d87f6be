import GoDecorator.Catalogue

/-!
# Lists of patterns

The forms in which a list of summaries is printed: one line for each, or JSON with an indentation of
two blanks.
-/

namespace GoDecorator

/-- The line for a summary. -/
def Summary.text (s : Summary) : String := s.name ++ " - " ++ s.description

/-- One line for each summary. -/
def listText (summaries : List Summary) : String := "\n".intercalate (summaries.map Summary.text)

namespace Json

/-- Two hexadecimal digits. -/
def hexByte (n : Nat) : String := if n < 16 then "0" ++ Text.hex n else Text.hex n

/-- A character inside a JSON string. -/
def escape (c : Char) : String :=
  if c = '"' then "\\\""
  else if c = '\\' then "\\\\"
  else if c = '\x08' then "\\b"
  else if c = '\t' then "\\t"
  else if c = '\n' then "\\n"
  else if c = '\x0c' then "\\f"
  else if c = '\r' then "\\r"
  else if c.toNat < 0x20 then "\\u00" ++ hexByte c.toNat
  else String.singleton c

/-- A JSON string. -/
def string (s : String) : String := "\"" ++ String.join (s.toList.map escape) ++ "\""

end Json

/-- A summary as a JSON object. -/
def Summary.json (s : Summary) : String :=
  "  \x7b\n    \"name\": " ++ Json.string s.name ++ ",\n    \"description\": " ++
    Json.string s.description ++ "\n  \x7d"

/-- The summaries as a JSON array. -/
def listJson (summaries : List Summary) : String :=
  if summaries.isEmpty then "[]"
  else "[\n" ++ ",\n".intercalate (summaries.map Summary.json) ++ "\n]"

end GoDecorator
