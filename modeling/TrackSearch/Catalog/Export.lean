import TrackSearch.Catalog
import TrackSearch.Json.Printer

/-!
Writing a catalog as the text of a catalog file.
-/

namespace TrackSearch

namespace Catalog

def toJson (catalog : Catalog) : Json :=
  .object [("tracks", .array (catalog.tracks.map fun t => (TrackEntry.ofTrack t).toJson))]

def render (catalog : Catalog) : String := catalog.toJson.pretty

end Catalog

end TrackSearch
