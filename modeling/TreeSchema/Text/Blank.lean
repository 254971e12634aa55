/-!
# Blanks, trimming and words

A blank is a character with the Unicode property White_Space. Texts are lists of characters here:
trimming drops blanks at the ends, and the words of a text are its longest runs without a blank.
-/
namespace TreeSchema.Text

/-- Tab to carriage return, the space, and the blanks outside ASCII. -/
def isBlank (c : Char) : Bool :=
  let n := c.toNat
  (9 ≤ n && n ≤ 13) || n == 0x20 || n == 0x85 || n == 0xA0 || n == 0x1680 ||
    (0x2000 ≤ n && n ≤ 0x200A) || n == 0x2028 || n == 0x2029 || n == 0x202F || n == 0x205F ||
    n == 0x3000

/-- Drops the longest run of characters at the end that satisfy `p`. -/
def dropEndWhile (p : Char → Bool) (s : List Char) : List Char :=
  (s.reverse.dropWhile p).reverse

def trimStart (s : List Char) : List Char := s.dropWhile isBlank

def trimEnd (s : List Char) : List Char := dropEndWhile isBlank s

def trim (s : List Char) : List Char := trimEnd (trimStart s)

/-- The pieces between the characters that satisfy `p`: the first one, and those after it. -/
def split (p : Char → Bool) : List Char → List Char × List (List Char)
  | [] => ([], [])
  | c :: s =>
    let (piece, others) := split p s
    if p c then ([], piece :: others) else (c :: piece, others)

/-- The pieces that are not empty. -/
def splitNonempty (p : Char → Bool) (s : List Char) : List (List Char) :=
  let (piece, others) := split p s
  (piece :: others).filter (!·.isEmpty)

/-- The longest runs without a blank. -/
def words (s : List Char) : List (List Char) := splitNonempty isBlank s

/-- Every blank of ASCII text is among the blanks. -/
theorem isBlank_of_isWhitespace {c : Char} (h : c.isWhitespace = true) : isBlank c = true := by
  simp only [Char.isWhitespace, Bool.or_eq_true, decide_eq_true_eq] at h
  rcases h with ((rfl | rfl) | rfl) | rfl <;> rfl

end TreeSchema.Text
