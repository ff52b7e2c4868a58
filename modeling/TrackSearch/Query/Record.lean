import TrackSearch.Text.Lowercase
import TrackSearch.Text.Substring
import TrackSearch.Query.Predicate

/-!
Whether a predicate holds for a record. Both sides of a comparison of texts are lowercased; a record
without a year meets no criterion on years, and a missing artist or album contains nothing.
-/

namespace TrackSearch.Query

structure Record where
  title : String
  artist : Option String
  album : Option String
  year : Option Int32
  explicit : Bool
  tags : List String
  deriving DecidableEq

def containsText (needle text : String) : Bool :=
  Text.occursIn (Text.lower needle.toList) (Text.lower text.toList)

def sameIgnoringCase (a b : String) : Bool := Text.lower a.toList == Text.lower b.toList

def Record.hasTag (r : Record) (name : String) : Bool := r.tags.any (sameIgnoringCase name)

def inRange (min max : Option Int32) (year : Int32) : Bool :=
  min.all (· ≤ year) && max.all (year ≤ ·)

namespace Predicate

def holds (r : Record) : Predicate → Bool
  | always => true
  | and left right => left.holds r && right.holds r
  | or left right => left.holds r || right.holds r
  | titleContains text => containsText text r.title
  | artistContains text => r.artist.any (containsText text)
  | albumContains text => r.album.any (containsText text)
  | yearEquals year => r.year == some year
  | yearRange min max => r.year.any (inRange min max)
  | explicitIs flag => r.explicit == flag
  | tagIncluded name => r.hasTag name
  | tagExcluded name => !r.hasTag name
  | freeText text =>
    containsText text r.title || r.artist.any (containsText text) ||
      r.album.any (containsText text)

theorem holds_freeText (r : Record) (text : String) :
    (freeText text).holds r = (inAnyField text).holds r := rfl

end Predicate

end TrackSearch.Query
