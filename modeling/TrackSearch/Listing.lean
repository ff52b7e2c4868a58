import TrackSearch.Json.Fields
import TrackSearch.Track.JsonForm

/-!
Entries of listings: a track with all its fields, and a tag with the number of tracks that carry it.
An entry is data as it stands; nothing is left out of it and its tags are plain text.
-/

namespace TrackSearch

structure TrackEntry where
  id : TrackId
  title : String
  artist : Option String
  album : Option String
  year : Option Int32
  explicit : Bool
  tags : List String
  deriving DecidableEq

namespace TrackEntry

def ofTrack (t : Track) : TrackEntry :=
  ⟨t.id, t.title, t.artist, t.album, t.year, t.explicit, t.tags.map (·.text)⟩

def toJson (e : TrackEntry) : Json :=
  .object [
    ("id", .text e.id.render), ("title", .text e.title), ("artist", Json.ofText e.artist),
    ("album", Json.ofText e.album), ("year", Json.ofYear e.year), ("explicit", .bool e.explicit),
    ("tags", .array (e.tags.map .text))]

def ofJson? (json : Json) : Option TrackEntry :=
  match Json.fields? Track.fieldNames 7 json with
  | some [id, title, artist, album, year, explicit, tags] => do
    let id ← Json.required? TrackId.ofJson? id
    let title ← Json.required? Json.text? title
    let artist ← Json.orElse? none (Json.nullable? Json.text?) artist
    let album ← Json.orElse? none (Json.nullable? Json.text?) album
    let year ← Json.orElse? none (Json.nullable? Json.int32?) year
    let explicit ← Json.required? Json.bool? explicit
    let tags ← Json.required? (fun json => json.array?.bind (·.mapM Json.text?)) tags
    some ⟨id, title, artist, album, year, explicit, tags⟩
  | _ => none

end TrackEntry

structure TagCount where
  name : String
  count : Nat
  deriving DecidableEq

namespace TagCount

def toJson (c : TagCount) : Json := .object [("name", .text c.name), ("count", .integer c.count)]

def ofJson? (json : Json) : Option TagCount :=
  match Json.fields? ["name", "count"] 2 json with
  | some [name, count] => do
    let name ← Json.required? Json.text? name
    let count ← Json.required? Json.count? count
    some ⟨name, count⟩
  | _ => none

end TagCount

end TrackSearch
