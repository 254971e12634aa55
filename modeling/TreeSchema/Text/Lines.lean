import TreeSchema.Text.Blank
/-!
# The lines of a text

A line ends at a line feed, and a carriage return right before it belongs to the line end. A
carriage return elsewhere is an ordinary character, and a text that ends with a line feed has no
further, empty line.
-/
namespace TreeSchema.Text

/-- The lines of a text, without their ends. -/
def lines : List Char → List (List Char)
  | [] => []
  | c :: s =>
    if c = '\n' then [] :: lines s
    else if c = '\r' ∧ s.head? = some '\n' then lines s
    else
      match lines s with
      | [] => [[c]]
      | l :: ls => (c :: l) :: ls

/-- The number of bytes that a text takes in UTF-8. -/
def byteLength : List Char → Nat
  | [] => 0
  | c :: s => c.utf8Size + byteLength s

/-- The column, counted in bytes from 1, at which the text of a line begins after its blanks. -/
def textColumn (l : List Char) : Nat := byteLength (l.takeWhile isBlank) + 1

example : lines "a\r\n\r\rb\n\nc\r".toList =
    ["a".toList, "\r\rb".toList, [], "c\r".toList] := by decide

end TreeSchema.Text
