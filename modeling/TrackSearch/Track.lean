import TrackSearch.Text.Numeral
import TrackSearch.Query.Record
import TrackSearch.TagName
import TrackSearch.TrackId

/-!
Tracks of a music catalog, and what makes one acceptable.
-/

namespace TrackSearch

structure Track where
  id : TrackId
  title : String
  artist : Option String
  album : Option String
  year : Option Int32
  explicit : Bool
  tags : List TagName
  deriving DecidableEq

inductive TrackError where
  | emptyTitle
  | invalidYear (year : Int32)
  deriving DecidableEq

def TrackError.message : TrackError → String
  | .emptyTitle => "track title is required"
  | .invalidYear year => "invalid year: " ++ Text.intText year.toInt

namespace Track

def isValidYear (year : Int32) : Bool := 1 ≤ year.toInt && year.toInt ≤ 9999

theorem isValidYear_iff {year : Int32} :
    isValidYear year = true ↔ 1 ≤ year.toInt ∧ year.toInt ≤ 9999 := by
  simp [isValidYear]

def check (t : Track) : Except TrackError Unit :=
  if Text.allBlank t.title.toList then .error .emptyTitle
  else
    match t.year.filter (!isValidYear ·) with
    | some year => .error (.invalidYear year)
    | none => .ok ()

def record (t : Track) : Query.Record :=
  ⟨t.title, t.artist, t.album, t.year, t.explicit, t.tags.map (·.text)⟩

end Track

end TrackSearch
