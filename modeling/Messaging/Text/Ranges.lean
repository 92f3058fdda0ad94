/-!
# Code point ranges

Character classes of the Unicode standard are given as tables of ascending, disjoint, closed
ranges of code points.
-/

namespace Messaging.Text

def inRanges (ranges : List (Nat × Nat)) (n : Nat) : Bool :=
  ranges.any fun range => range.1 ≤ n && n ≤ range.2

end Messaging.Text
