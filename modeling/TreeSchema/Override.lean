import TreeSchema.Text.Cut
/-!
# Overrides

A comment after a declaration may override what the generated code does with it. The override is
the first group in round brackets that is not empty: a guard, or a guard and a value that a colon
and a blank set apart.
-/
namespace TreeSchema

structure Override where
  guard : Option String
  value : Option String
deriving DecidableEq, Repr

namespace Text

/-- The inside of the first pair of round brackets that is not empty. -/
def bracketGroup? : List Char → Option (List Char)
  | [] => none
  | c :: s =>
    let inside := s.takeWhile (· != ')')
    if c = '(' ∧ inside ≠ [] ∧ s.dropWhile (· != ')') ≠ [] then some inside else bracketGroup? s

/-- The texts before the first colon that a blank follows and after the blanks that follow it. -/
def cutColon? : List Char → Option (List Char × List Char)
  | [] => none
  | c :: s =>
    if c = ':' ∧ (s.head?.map isBlank).getD false then some ([], trimStart s)
    else (cutColon? s).map fun (before, after) => (c :: before, after)

end Text

namespace Override

def empty : Override := ⟨none, none⟩

def isEmpty (o : Override) : Bool := o.guard.isNone && o.value.isNone

/-- The override that the inside of a group says. The parts that are not empty count in order. -/
def ofGroup (group : List Char) : Override :=
  let parts :=
    match Text.cutColon? group with
    | some (before, after) => [before, after]
    | none => [group]
  let texts := (parts.map Text.trim).filter (!·.isEmpty)
  ⟨texts[0]?.map String.ofList, texts[1]?.map String.ofList⟩

/-- The override in the text of a comment. -/
def ofComment (comment : List Char) : Override :=
  match Text.bracketGroup? comment with
  | some group => ofGroup group
  | none => empty

/-- The override in the comment of a line. -/
def ofLine (line : List Char) : Override :=
  match Text.comment? line with
  | some comment => ofComment comment
  | none => empty

end Override

end TreeSchema
