/-!
# Sets of code points

A property of characters is the set of the code points that have it, given by its runs. The runs
ascend and do not touch, so a set has only one table; a character is looked up by comparing it with
the ends of each run. The tables of properties follow Unicode 17.
-/

namespace FastCgi

/-- Whether every run ends where it begins or later, and leaves a gap before the next one. -/
def CodePoints.ascending : List (Nat × Nat) → Bool
  | [] => true
  | [(first, last)] => first ≤ last
  | (first, last) :: run :: rest => first ≤ last && last + 1 < run.1 && ascending (run :: rest)

/-- A set of code points. -/
structure CodePoints where
  /-- The first and last code point of every run. -/
  runs : List (Nat × Nat)
  runs_ascending : CodePoints.ascending runs = true := by decide +kernel

/-- Whether a character is in the set. -/
def CodePoints.contains (set : CodePoints) (c : Char) : Bool :=
  set.runs.any fun (first, last) => first ≤ c.toNat && c.toNat ≤ last

end FastCgi
