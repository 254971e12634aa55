import TreeSchema.Text.Blank
/-!
# Cutting texts

A line of a schema is code, then perhaps a comment that `//` opens. The code of a declaration has a
left side, then perhaps a right side that `=` opens.
-/
namespace TreeSchema.Text

/-- The texts before and after the first `//`. -/
def cutComment? : List Char → Option (List Char × List Char)
  | [] => none
  | [_] => none
  | c :: d :: s =>
    if c = '/' ∧ d = '/' then some ([], s)
    else (cutComment? (d :: s)).map fun (code, comment) => (c :: code, comment)

/-- The code of a line and its comment. The blanks before a comment belong to neither. -/
def codeAndComment (l : List Char) : List Char × Option (List Char) :=
  match cutComment? l with
  | some (code, comment) => (trimEnd code, some comment)
  | none => (l, none)

def code (l : List Char) : List Char := (codeAndComment l).1

def comment? (l : List Char) : Option (List Char) := (codeAndComment l).2

/-- The text before the first `=`. -/
def leftSide (s : List Char) : List Char := s.takeWhile (· != '=')

/-- The text after the first `=`, empty if there is none. -/
def rightSide (s : List Char) : List Char := (s.dropWhile (· != '=')).drop 1

/-- Drops the blanks around a text and the semicolons at its end, with the blanks before them. -/
def dropSemicolons (s : List Char) : List Char := trimEnd (dropEndWhile (· == ';') (trim s))

/-- The text without `suffix` at its end, or the text itself if it does not end so. -/
def dropSuffix (suffix s : List Char) : List Char :=
  if suffix.isSuffixOf s then s.take (s.length - suffix.length) else s

end TreeSchema.Text

namespace TreeSchema

/-- Whether `s` ends with `suffix`. -/
def endsWith (s suffix : String) : Bool := suffix.toList.isSuffixOf s.toList

/-- The name without `suffix` at its end, or the name itself if it does not end so. -/
def stripSuffix (s suffix : String) : String := String.ofList (Text.dropSuffix suffix.toList s.toList)

end TreeSchema
