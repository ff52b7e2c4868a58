import TrackSearch.Catalog
import TrackSearch.Files

/-!
Opening the catalog at a path, from what lies there.
-/

namespace TrackSearch

inductive CatalogError where
  | missing
  | unreadable
  | fault (fault : CatalogFault)
  deriving DecidableEq

def CatalogFault.message [FileReports] (path : Path) : CatalogFault → String
  | .malformed => "failed to parse catalog " ++ path.text ++ ": " ++ FileReports.malformedCatalog path
  | .invalidTrack index cause =>
    "invalid track at index " ++ Text.natText index ++ ": " ++ cause.message
  | .duplicateTrack id => "duplicate track id: " ++ id.render

def CatalogError.message [FileReports] (path : Path) : CatalogError → String
  | .missing => "catalog not found: " ++ path.text
  | .unreadable => "failed to read catalog " ++ path.text ++ ": " ++ FileReports.unreadable path
  | .fault cause => cause.message path

def CatalogError.causes [FileReports] (path : Path) : CatalogError → List String
  | .unreadable => [FileReports.unreadable path]
  | .fault .malformed => [FileReports.malformedCatalog path]
  | .fault (.invalidTrack _ cause) => [cause.message]
  | _ => []

def Catalog.ofContent (fresh : Nat → TrackId) : FileContent → Except CatalogError Catalog
  | .missing => .error .missing
  | .blocked | .unreadable => .error .unreadable
  | .text text => (Catalog.ofText fresh text).mapError .fault

end TrackSearch
