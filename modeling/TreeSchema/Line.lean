import TreeSchema.Error
import TreeSchema.Text.Cut
import TreeSchema.Text.Lines
/-!
# The lines of a schema text

Every line of a schema text is one of five kinds, told by its trimmed text alone. Braces count only
in its code, so a comment may hold any.
-/
namespace TreeSchema

inductive LineKind where
  | openBlock (keyword name : String)
  | closeBlock
  | declaration (text : String)
  | comment
  | blank
deriving DecidableEq, Repr

/-- A line with its place: its number, and the column at which its text begins, both from 1. -/
structure Line where
  kind : LineKind
  line : Nat
  column : Nat
deriving DecidableEq, Repr

namespace Text

/-- A letter of ASCII or an underscore. -/
def isNameStart (c : Char) : Bool := c.isAlpha || c == '_'

/-- A letter or digit of ASCII or an underscore. -/
def isNamePart (c : Char) : Bool := c.isAlphanum || c == '_'

/-- A name at the front of a text, and what follows it. -/
def name? : List Char → Option (List Char × List Char)
  | [] => none
  | c :: s =>
    if isNameStart c then some (c :: s.takeWhile isNamePart, s.dropWhile isNamePart) else none

/-- The keyword and the name of a header, which is two names with blanks between them and a brace
at the end. -/
def header? (s : List Char) : Option (List Char × List Char) := do
  let (keyword, afterKeyword) ← name? s
  guard ((afterKeyword.head?.map isBlank).getD false)
  let (name, afterName) ← name? (trimStart afterKeyword)
  guard (trimStart afterName == ['\x7b'])
  pure (keyword, name)

end Text

namespace LineKind

/-- The kind of a line with the given trimmed text. `none` stands for a malformed header. -/
def ofTrimmed? (t : List Char) : Option LineKind :=
  if t.isEmpty then some .blank
  else if ['/', '/'].isPrefixOf t then some .comment
  else
    let code := Text.code t
    if code.contains '\x7d' then some .closeBlock
    else if code.contains '\x7b' then
      (Text.header? code).map fun (keyword, name) =>
        .openBlock (String.ofList keyword) (String.ofList name)
    else some (.declaration (String.ofList t))

end LineKind

namespace Line

/-- Classifies one line. -/
def classify (number : Nat) (l : List Char) : Except Error Line :=
  let t := Text.trim l
  match LineKind.ofTrimmed? t with
  | some kind => .ok ⟨kind, number, Text.textColumn l⟩
  | none => .error (.block (.header (String.ofList t)) number (Text.textColumn l))

/-- Classifies lines that are numbered from `number`. The first malformed header is the error. -/
def classifyFrom (number : Nat) : List (List Char) → Except Error (List Line)
  | [] => .ok []
  | l :: ls => do
    let line ← classify number l
    let lines ← classifyFrom (number + 1) ls
    pure (line :: lines)

/-- Classifies the lines of a schema text. -/
def ofText (text : String) : Except Error (List Line) := classifyFrom 1 (Text.lines text.toList)

end Line

/-- Whether a declaration says something about the file as a whole and may stand outside every
block. -/
def isFileStatement (text : String) : Bool :=
  let word := text.toList.takeWhile fun c => !Text.isBlank c && c != '='
  ["syntax", "package", "import", "option"].contains (String.ofList word)

end TreeSchema
