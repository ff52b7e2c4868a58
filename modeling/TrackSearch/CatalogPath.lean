import TrackSearch.Environment

/-!
Where the catalog lies: at the path that was asked for, else at the one that is configured, else in the
data directory.
-/

namespace TrackSearch

inductive CatalogPathError where
  | missingHome
  | invalidDataPath (path : Path)
  deriving DecidableEq

def CatalogPathError.message : CatalogPathError → String
  | .missingHome => "missing home directory"
  | .invalidDataPath path => "invalid data path: " ++ path.text

namespace CatalogPath

def dataDirectory (env : Environment) : Except CatalogPathError Path :=
  match env.dataHome with
  | some directory =>
    if directory.isEmpty then .error (.invalidDataPath ⟨directory⟩)
    else .ok (Path.join ⟨directory⟩ programDirectory)
  | none =>
    match env.homePath? with
    | some home => .ok (((home.join ⟨".local"⟩).join ⟨"share"⟩).join programDirectory)
    | none => .error .missingHome

def standard (env : Environment) : Except CatalogPathError Path :=
  (dataDirectory env).map (·.join ⟨"catalog.json"⟩)

def resolve (env : Environment) (requested configured : Option Path) :
    Except CatalogPathError Path :=
  match requested <|> configured with
  | some path => if path.isEmpty then .error (.invalidDataPath path) else .ok path
  | none => standard env

end CatalogPath

end TrackSearch
