/-!
Sets of code points, written as closed ranges in increasing order with no two touching. The tables made
of them follow Unicode 17.0.
-/

namespace TrackSearch.Text

structure CodeRange where
  first : Nat
  last : Nat
  deriving DecidableEq

def inRanges (n : Nat) : List CodeRange → Bool
  | [] => false
  | r :: rest => if n ≤ r.last then decide (r.first ≤ n) else inRanges n rest

end TrackSearch.Text
