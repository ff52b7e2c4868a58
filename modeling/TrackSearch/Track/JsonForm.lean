import TrackSearch.Json.Fields
import TrackSearch.Track

/-!
Tracks as a catalog file gives them. Everything but the title may be left out; a track without an
identifier gets a fresh one.
-/

namespace TrackSearch

def TrackId.ofJson? (json : Json) : Option TrackId :=
  json.text?.bind fun text => TrackId.ofSpelling? text.toList

def TagName.ofJson? (json : Json) : Option TagName := json.text?.bind TagName.ofText?

namespace Track

def fieldNames : List String := ["id", "title", "artist", "album", "year", "explicit", "tags"]

def ofJson? (fresh : TrackId) (json : Json) : Option Track :=
  match Json.fields? fieldNames 2 json with
  | some [id, title, artist, album, year, explicit, tags] => do
    let id ← Json.orElse? fresh TrackId.ofJson? id
    let title ← Json.required? Json.text? title
    let artist ← Json.orElse? none (Json.nullable? Json.text?) artist
    let album ← Json.orElse? none (Json.nullable? Json.text?) album
    let year ← Json.orElse? none (Json.nullable? Json.int32?) year
    let explicit ← Json.orElse? false Json.bool? explicit
    let tags ← Json.orElse? [] (fun json => json.array?.bind (·.mapM TagName.ofJson?)) tags
    some ⟨id, title, artist, album, year, explicit, tags⟩
  | _ => none

end Track

end TrackSearch
