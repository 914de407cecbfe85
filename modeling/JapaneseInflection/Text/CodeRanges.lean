/-!
# Sets of characters as ranges

A property of characters is given as closed ranges of code points, each by its first and its last
member.

* `CodeRanges.covers` looks a character up.
-/

namespace JapaneseInflection

/-- Closed ranges of code points. -/
abbrev CodeRanges := List (Nat × Nat)

namespace CodeRanges

/-- Test if a character lies in one of the ranges. -/
def covers (ranges : CodeRanges) (c : Char) : Bool :=
  ranges.any fun range => range.1 ≤ c.toNat && c.toNat ≤ range.2

end CodeRanges

end JapaneseInflection
