/-!
# String literals

A text as a literal of JSON, which is one of TypeScript too: quotes around it, a backslash before a
quote or a backslash, the short escapes where there is one, and `\u00xx` for the other controls
below the space. All else stands for itself.
-/
namespace TreeSchema.Text

/-- The digit of a number below 16, in lower case. -/
def hexDigit (n : Nat) : Char := Nat.digitChar n

/-- One character of a literal. -/
def escapeQuoted (c : Char) : List Char :=
  if c = '"' then ['\\', '"']
  else if c = '\\' then ['\\', '\\']
  else if c = '\x08' then ['\\', 'b']
  else if c = '\t' then ['\\', 't']
  else if c = '\n' then ['\\', 'n']
  else if c = '\x0c' then ['\\', 'f']
  else if c = '\r' then ['\\', 'r']
  else if c.toNat < 0x20 then ['\\', 'u', '0', '0', hexDigit (c.toNat / 16), hexDigit (c.toNat % 16)]
  else [c]

/-- A text as a literal. -/
def quoted (s : List Char) : List Char := '"' :: s.flatMap escapeQuoted ++ ['"']

end TreeSchema.Text

namespace TreeSchema

/-- A text as a literal. -/
def quote (s : String) : String := String.ofList (Text.quoted s.toList)

end TreeSchema
