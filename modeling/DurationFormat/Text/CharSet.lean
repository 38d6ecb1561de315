/-!
# Sets of characters

A set is given by ranges of code points, both ends included, as tables of character properties
give them.
-/

namespace DurationFormat.Text

abbrev CharSet := List (Nat × Nat)

def CharSet.contains (s : CharSet) (c : Char) : Bool :=
  s.any fun (lo, hi) => lo ≤ c.toNat && c.toNat ≤ hi

end DurationFormat.Text
