import TrackSearch.Query.Parse

/-!
The criteria of a predicate from left to right, without what merely always holds.
-/

namespace TrackSearch.Query

namespace Predicate

def leaves : Predicate → List Predicate
  | always => []
  | and left right | or left right => left.leaves ++ right.leaves
  | leaf => [leaf]

def texts : Predicate → List String
  | and left right | or left right => left.texts ++ right.texts
  | titleContains text | artistContains text | albumContains text | freeText text => [text]
  | tagIncluded name | tagExcluded name => [name]
  | always | yearEquals _ | yearRange _ _ | explicitIs _ => []

theorem texts_eq_flatMap_leaves (p : Predicate) : p.texts = p.leaves.flatMap texts := by
  induction p with
  | and left right ihleft ihright => rw [texts, leaves, List.flatMap_append, ← ihleft, ← ihright]
  | or left right ihleft ihright => rw [texts, leaves, List.flatMap_append, ← ihleft, ← ihright]
  | _ => rfl

end Predicate

def Field.isText : Field → Bool
  | .year | .explicit => false
  | .title | .artist | .album | .tagIncluded | .tagExcluded | .freeText => true

theorem leaves_join (before clause : Predicate) (relation : Option Relation) :
    (join before relation clause).leaves = before.leaves ++ clause.leaves := by
  unfold join
  split
  · cases before <;> simp_all [Predicate.isAlways, Predicate.leaves]
  · split <;> rfl

end TrackSearch.Query
