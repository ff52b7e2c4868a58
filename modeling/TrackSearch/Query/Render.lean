import TrackSearch.Text.Enclosed
import TrackSearch.Text.Numeral
import TrackSearch.Query.Predicate

/-!
Predicates written as queries. And and or combine from the left, so brackets go only around a
combination on the right; a side that holds for every record is written as the empty group.
-/

namespace TrackSearch.Query

def isSpecial (c : Char) : Bool := c == '"' || c == '\\' || c == '(' || c == ')'

def escape (cs : List Char) : List Char :=
  cs.flatMap fun c => if isSpecial c then ['\\', c] else [c]

def quote (text : String) : List Char := Text.enclose '"' '"' (escape text.toList)

def showBound (bound : Option Int32) : List Char := (bound.map Text.showInt32).getD []

def grouped (cs : List Char) : List Char := Text.enclose '(' ')' cs

namespace Predicate

def isCombined : Predicate → Bool
  | and _ _ | or _ _ => true
  | _ => false

def leftSide (p : Predicate) (rendering : List Char) : List Char :=
  if p.isAlways then grouped [] else rendering

def rightSide (p : Predicate) (rendering : List Char) : List Char :=
  if p.isAlways || p.isCombined then grouped rendering else rendering

def chars : Predicate → List Char
  | always => []
  | and left right => left.leftSide left.chars ++ " AND ".toList ++ right.rightSide right.chars
  | or left right => left.leftSide left.chars ++ " OR ".toList ++ right.rightSide right.chars
  | titleContains text => "t:".toList ++ quote text
  | artistContains text => "a:".toList ++ quote text
  | albumContains text => "al:".toList ++ quote text
  | yearEquals year => "y:".toList ++ Text.showInt32 year
  | yearRange min max => "y:".toList ++ showBound min ++ "-".toList ++ showBound max
  | explicitIs flag => "e:".toList ++ (if flag then "true" else "false").toList
  | tagIncluded name => "+".toList ++ quote name
  | tagExcluded name => "-".toList ++ quote name
  | freeText text => quote text

def render (p : Predicate) : String := String.ofList p.chars

end Predicate

end TrackSearch.Query
