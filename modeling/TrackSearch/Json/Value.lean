/-!
JSON values, as far as any field of a catalog can hold them.
-/

namespace TrackSearch

inductive Json where
  | null
  | bool (value : Bool)
  | integer (value : Int)
  | text (value : String)
  | array (items : List Json)
  /-- Members in the order they are written, repeated keys included. -/
  | object (members : List (String × Json))
  /-- Well-formed, but held by no field: a number that is not written as an integer, a text with an
  unpaired surrogate, or an object with such a text for a key. -/
  | unusable

end TrackSearch
