/-!
The criteria that a query stands for, as a tree of conjunctions and disjunctions. Texts are kept as
they were typed; letter case is ignored when records are matched.
-/

namespace TrackSearch.Query

inductive Predicate where
  | always
  | and (left right : Predicate)
  | or (left right : Predicate)
  | titleContains (text : String)
  | artistContains (text : String)
  | albumContains (text : String)
  | yearEquals (year : Int32)
  /-- Both ends belong to the range, and a missing end leaves that side open. -/
  | yearRange (min max : Option Int32)
  | explicitIs (flag : Bool)
  | tagIncluded (name : String)
  | tagExcluded (name : String)
  | freeText (text : String)
  deriving DecidableEq

namespace Predicate

def isAlways : Predicate → Bool
  | always => true
  | _ => false

def inAnyField (text : String) : Predicate :=
  or (or (titleContains text) (artistContains text)) (albumContains text)

end Predicate

end TrackSearch.Query
