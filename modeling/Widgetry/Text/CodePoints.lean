/-!
Sets of characters given as runs of code points. The properties of the Unicode standard that this
library needs (letters and digits, the two letter cases, characters without a visible form) are
lists of such runs, in ascending order, in the modules beside this one.
-/

namespace Widgetry.Text

/-- A run of code points: `first`, `first + step`, and so on, none past `last`. -/
structure Run where
  first : Nat
  last : Nat
  step : Nat := 1
  deriving Repr, DecidableEq

namespace Run

/-- A code point is in a run when it lies within the bounds and on the run's grid. -/
def contains (r : Run) (n : Nat) : Bool :=
  r.first ≤ n && n ≤ r.last && (n - r.first) % r.step == 0

end Run

/-- A character is in a list of runs when its code point is in one of them. -/
def inRuns (runs : List Run) (c : Char) : Bool :=
  runs.any fun r => r.contains c.toNat

end Widgetry.Text
