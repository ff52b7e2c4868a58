import TrackSearch.Json.Reader
import TrackSearch.Listing
import TrackSearch.Track.JsonForm

/-!
Catalogs: lists of acceptable tracks, no two with the same identifier. A catalog is read from the text
of a file, searched, and summed up by tag.
-/

namespace TrackSearch

structure Catalog where
  tracks : List Track
  deriving DecidableEq

inductive CatalogFault where
  /-- The text is no JSON, or not of the form that a catalog file has. -/
  | malformed
  | invalidTrack (index : Nat) (cause : TrackError)
  | duplicateTrack (id : TrackId)
  deriving DecidableEq

namespace Catalog

/-- Accepts the tracks from position `index` on, where those before it have the identifiers `seen`. -/
def checkFrom (index : Nat) (seen : List TrackId) : List Track → Except CatalogFault Unit
  | [] => .ok ()
  | track :: tracks =>
    match track.check with
    | .error cause => .error (.invalidTrack index cause)
    | .ok () =>
      if track.id ∈ seen then .error (.duplicateTrack track.id)
      else checkFrom (index + 1) (track.id :: seen) tracks

def ofTracks (tracks : List Track) : Except CatalogFault Catalog :=
  (checkFrom 0 [] tracks).map fun () => ⟨tracks⟩

def tracksOfJson? (fresh : Nat → TrackId) (items : List Json) : Option (List Track) :=
  items.zipIdx.mapM fun (json, index) => Track.ofJson? (fresh index) json

def fileTracks? (fresh : Nat → TrackId) (json : Json) : Option (List Track) :=
  match Json.fields? ["tracks"] 0 json with
  | some [tracks] =>
    Json.orElse? [] (fun json => json.array?.bind (tracksOfJson? fresh)) tracks
  | _ => none

def ofText (fresh : Nat → TrackId) (text : String) : Except CatalogFault Catalog :=
  match (Json.read? text).bind (fileTracks? fresh) with
  | some tracks => ofTracks tracks
  | none => .error .malformed

def get? (catalog : Catalog) (id : TrackId) : Option Track :=
  catalog.tracks.find? (·.id == id)

def search (catalog : Catalog) (predicate : Query.Predicate) (limit : Option Nat) : List Track :=
  let found := catalog.tracks.filter fun t => predicate.holds t.record
  match limit with
  | some n => found.take n
  | none => found

def countTag (name : String) : List TagCount → List TagCount
  | [] => [⟨name, 1⟩]
  | c :: counts =>
    if name = c.name then ⟨c.name, c.count + 1⟩ :: counts
    else if name < c.name then ⟨name, 1⟩ :: c :: counts
    else c :: countTag name counts

def countTrack (counts : List TagCount) (t : Track) : List TagCount :=
  (t.tags.map (·.text)).eraseDups.foldl (fun counts name => countTag name counts) counts

def tagCounts (catalog : Catalog) : List TagCount := catalog.tracks.foldl countTrack []

end Catalog

end TrackSearch
