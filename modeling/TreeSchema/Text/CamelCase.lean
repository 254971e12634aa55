import TreeSchema.Text.Alphanumeric
import TreeSchema.Text.Blank
import TreeSchema.Text.LetterCase
/-!
# Lower camel case

A name is cut into words at its characters that are neither letters nor digits, and inside what is
left where the case of the letters shows a new word: after a lower-case letter that an upper-case
one follows, and before the last of several upper-case letters that a lower-case one follows. In
lower camel case the first word is in lower case and each later one has its first letter in upper
case.
-/
namespace TreeSchema.Text

/-- The case of the last letter read of a word, if it has one. -/
inductive WordCase where
  | none
  | lower
  | upper
deriving DecidableEq, Repr

/-- The case after a further character. A character without case changes nothing. -/
def WordCase.next (m : WordCase) (c : Char) : WordCase :=
  if isLowercase c then .lower else if isUppercase c then .upper else m

/-- The rest of the word that is being read, and the words after it. -/
def caseWords (m : WordCase) : List Char → List Char × List (List Char)
  | [] => ([], [])
  | [c] => ([c], [])
  | c :: d :: s =>
    if m.next c = .lower ∧ isUppercase d then
      let (word, others) := caseWords .none (d :: s)
      ([c], word :: others)
    else if m = .upper ∧ isUppercase c ∧ isLowercase d then
      let (word, others) := caseWords .none (d :: s)
      ([], (c :: word) :: others)
    else
      let (word, others) := caseWords (m.next c) (d :: s)
      (c :: word, others)

/-- The words of a name. -/
def nameWords (s : List Char) : List (List Char) :=
  (splitNonempty (!isAlphanumeric ·) s).flatMap fun piece =>
    let (word, others) := caseWords .none piece
    word :: others

/-- A word in lower case. A sigma that ends the word takes its final form. -/
def lowerWord : List Char → List Char
  | [] => []
  | [c] => if c = 'Σ' then ['ς'] else lowercase c
  | c :: d :: s => lowercase c ++ lowerWord (d :: s)

/-- A word with its first character in upper case and the others in lower case. -/
def capitalWord : List Char → List Char
  | [] => []
  | c :: s => uppercase c ++ lowerWord s

def lowerCamel (s : List Char) : List Char :=
  match nameWords s with
  | [] => []
  | word :: others => lowerWord word ++ others.flatMap capitalWord

end TreeSchema.Text

namespace TreeSchema

/-- The key under which a declared name stands in the generated code. -/
def outputName (name : String) : String := String.ofList (Text.lowerCamel name.toList)

end TreeSchema
