import TrackSearch.Query.Record

/-!
Predicates and records with other texts in the same places.
-/

namespace TrackSearch.Query

def Predicate.mapText (f : String → String) : Predicate → Predicate
  | and left right => and (left.mapText f) (right.mapText f)
  | or left right => or (left.mapText f) (right.mapText f)
  | titleContains text => titleContains (f text)
  | artistContains text => artistContains (f text)
  | albumContains text => albumContains (f text)
  | tagIncluded name => tagIncluded (f name)
  | tagExcluded name => tagExcluded (f name)
  | freeText text => freeText (f text)
  | p => p

def Record.mapText (f : String → String) (r : Record) : Record :=
  { r with
    title := f r.title
    artist := r.artist.map f
    album := r.album.map f
    tags := r.tags.map f }

def lowercase (text : String) : String := String.ofList (Text.lower text.toList)

theorem Predicate.mapText_id (p : Predicate) : p.mapText id = p := by
  induction p with
  | and left right hleft hright => rw [mapText, hleft, hright]
  | or left right hleft hright => rw [mapText, hleft, hright]
  | _ => rfl

theorem Record.mapText_id (r : Record) : r.mapText id = r := by
  simp only [mapText, Option.map_id, List.map_id, id]

end TrackSearch.Query
