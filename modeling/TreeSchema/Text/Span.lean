/-!
# Sets and maps of characters as runs of code points

Unicode lists its properties and its case maps as tables. A `Span` is a run of code points with an
even step, and a `Shift` is a run that moves to another place as a whole.
-/
namespace TreeSchema.Text

/-- The code points `first`, `first + step`, …, up to `last`. -/
structure Span where
  first : Nat
  last : Nat
  step : Nat
deriving DecidableEq, Repr

def Span.contains (r : Span) (n : Nat) : Bool :=
  r.first ≤ n && n ≤ r.last && (n - r.first) % r.step == 0

/-- Whether a character is in one of the runs. -/
def inSpans (table : List Span) (c : Char) : Bool := table.any (·.contains c.toNat)

/-- The run `first`, `first + step`, …, `last`, moved so that `first` goes to `target`. -/
structure Shift where
  first : Nat
  last : Nat
  step : Nat
  target : Nat
deriving DecidableEq, Repr

/-- Where the first run that holds a character moves it. A character of no run stays. -/
def shifted (table : List Shift) (c : Char) : Char :=
  match table.find? fun r => (Span.mk r.first r.last r.step).contains c.toNat with
  | some r => Char.ofNat (r.target + (c.toNat - r.first))
  | none => c

end TreeSchema.Text
