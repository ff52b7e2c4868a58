import TrackSearch.Query.Parse

/-!
Predicates that a query can stand for. Parsing never joins anything to a predicate that always holds,
and a year is read without a minus sign, since a dash separates the ends of a range.
-/

namespace TrackSearch.Query

namespace Predicate

def IsCanonical : Predicate → Prop
  | and left right | or left right => left ≠ always ∧ left.IsCanonical ∧ right.IsCanonical
  | yearEquals year => 0 ≤ year.toInt
  | yearRange min max =>
    (min.isSome ∨ max.isSome) ∧ (∀ year ∈ min, 0 ≤ year.toInt) ∧ ∀ year ∈ max, 0 ≤ year.toInt
  | _ => True

theorem isAlways_iff {p : Predicate} : p.isAlways = true ↔ p = always := by
  cases p <;> simp [isAlways]

end Predicate

theorem isCanonical_join {before clause : Predicate} (relation : Option Relation)
    (hbefore : before.IsCanonical) (hclause : clause.IsCanonical) :
    (join before relation clause).IsCanonical := by
  unfold join
  split
  · exact hclause
  · next halways =>
    rw [Predicate.isAlways_iff] at halways
    split <;> exact ⟨halways, hbefore, hclause⟩

end TrackSearch.Query
