/-!
Values of a TOML document. Floats, booleans and dates are told apart from nothing but each other, as no
setting holds one.
-/

namespace TrackSearch.Toml

inductive Value where
  | text (value : String)
  | integer (value : Int)
  /-- A float, a boolean, a date or time, or a word that spells no number. -/
  | other
  | array (items : List Value)
  | table (entries : List (String × Value))

end TrackSearch.Toml
