import TrackSearch.Query.Compiler

/-!
How deep the brackets of a query nest, as the scan without a limit counts them.
-/

namespace TrackSearch.Query

def Scan.peak (s : Scan) : List Char → Nat
  | [] => s.depth
  | c :: cs => max s.depth ((s.read c).2.peak cs)

def peakDepth (query : String) : Nat := Scan.start.peak query.toList

theorem Scan.depth_le_peak (s : Scan) (cs : List Char) : s.depth ≤ s.peak cs := by
  cases cs with
  | nil => exact Nat.le_refl _
  | cons c cs => exact Nat.le_max_left ..

theorem Scan.peak_read_le (s : Scan) (c : Char) (cs : List Char) :
    (s.read c).2.peak cs ≤ s.peak (c :: cs) := Nat.le_max_right ..

end TrackSearch.Query
