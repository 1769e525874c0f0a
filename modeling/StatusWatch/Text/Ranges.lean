/-!
Sets of numbers given by the points where membership changes.
-/

namespace StatusWatch.Text

/-- Whether `n` lies behind an odd number of the ascending `bounds`: each is a first
member or a first non-member, by turns. -/
def inRanges (bounds : List Nat) (n : Nat) : Bool :=
  (bounds.takeWhile (· ≤ n)).length % 2 = 1

end StatusWatch.Text
