import TrackSearch.Query.Clause

/-!
What parsing a query reports besides its result.
-/

namespace TrackSearch.Query

inductive Event where
  | expanding (contents : String)
  /-- A criterion was left out because its value cannot be read. -/
  | dropping (criterion : Criterion)
  deriving DecidableEq

end TrackSearch.Query
