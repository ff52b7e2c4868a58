import TrackSearch.Environment
import TrackSearch.Files
import TrackSearch.Query.Compiler
import TrackSearch.Toml.Document

/-!
The configuration: where the catalog lies, how deep queries may nest and how many tracks a search
lists. It comes from a file that was asked for, which must then be there, or from the standard one,
without which the defaults hold.
-/

namespace TrackSearch

structure Config where
  catalog : Option Path := none
  maxDepth : Nat := Query.defaultMaxDepth
  limit : Option Nat := none
  deriving DecidableEq

inductive ConfigError where
  | missingHome
  | invalidPath (path : Path)
  | missingFile (path : Path)
  | unreadable (path : Path)
  /-- No TOML, or not of the form that a configuration file has. -/
  | malformed (path : Path)
  | invalidCatalogPath (path : Path)
  | invalidDepth (depth : Int)
  | invalidLimit (limit : Int)
  deriving DecidableEq

def ConfigError.message [FileReports] : ConfigError → String
  | .missingHome => "missing home directory"
  | .invalidPath path => "invalid config path: " ++ path.text
  | .missingFile path => "config file not found: " ++ path.text
  | .unreadable path =>
    "failed to read config file " ++ path.text ++ ": " ++ FileReports.unreadable path
  | .malformed path =>
    "failed to parse config file " ++ path.text ++ ": " ++ FileReports.malformedConfig path
  | .invalidCatalogPath path => "invalid catalog path: " ++ path.text
  | .invalidDepth depth => "invalid query.max_group_depth value: " ++ Text.intText depth
  | .invalidLimit limit => "invalid output.limit value: " ++ Text.intText limit

def ConfigError.causes [FileReports] : ConfigError → List String
  | .unreadable path => [FileReports.unreadable path]
  | .malformed path => [FileReports.malformedConfig path]
  | _ => []

structure ConfigFile where
  catalog : Option Path
  maxDepth : Option Int
  limit : Option Int
  deriving DecidableEq

namespace ConfigFile

def int64? : Toml.Value → Option Int
  | .integer n => if Int64.minValue.toInt ≤ n ∧ n ≤ Int64.maxValue.toInt then some n else none
  | _ => none

/-- A section with one number in it. As an array it gives the number first. -/
def section? (name : String) : Toml.Value → Option (Option Int)
  | .table [] => some none
  | .table [(key, value)] => if key = name then (int64? value).map some else none
  | .array (value :: _) => (int64? value).map some
  | _ => none

def path? : Toml.Value → Option Path
  | .text path => some ⟨path⟩
  | _ => none

def setting? (read : Toml.Value → Option (Option α)) (entries : List (String × Toml.Value))
    (key : String) : Option (Option α) :=
  match entries.lookup key with
  | some value => read value
  | none => some none

def ofEntries? (entries : List (String × Toml.Value)) : Option ConfigFile :=
  if entries.all fun entry => entry.1 ∈ ["catalog", "query", "output"] then do
    let catalog ← setting? (fun value => (path? value).map some) entries "catalog"
    let maxDepth ← setting? (section? "max_group_depth") entries "query"
    let limit ← setting? (section? "limit") entries "output"
    some ⟨catalog, maxDepth, limit⟩
  else none

def ofText? (text : String) : Option ConfigFile := (Toml.read? text).bind ofEntries?

end ConfigFile

namespace Config

def resolveCatalog (directory : Path) : Option Path → Except ConfigError (Option Path)
  | none => .ok none
  | some path =>
    if path.isEmpty then .error (.invalidCatalogPath path) else .ok (some (directory.join path))

def resolveDepth : Option Int → Except ConfigError Nat
  | none => .ok Query.defaultMaxDepth
  | some depth =>
    match Query.validDepth? depth with
    | some depth => .ok depth
    | none => .error (.invalidDepth depth)

def resolveLimit : Option Int → Except ConfigError (Option Nat)
  | none => .ok none
  | some limit => if 0 < limit then .ok (some limit.toNat) else .error (.invalidLimit limit)

def ofFile (directory : Path) (file : ConfigFile) : Except ConfigError Config := do
  let catalog ← resolveCatalog directory file.catalog
  let maxDepth ← resolveDepth file.maxDepth
  let limit ← resolveLimit file.limit
  .ok ⟨catalog, maxDepth, limit⟩

def directory (env : Environment) : Except ConfigError Path :=
  match env.configHome with
  | some path => if path.isEmpty then .error (.invalidPath ⟨path⟩) else .ok ⟨path⟩
  | none =>
    match env.homePath? with
    | some home => .ok (home.join ⟨".config"⟩)
    | none => .error .missingHome

def path (env : Environment) : Option Path → Except ConfigError Path
  | some path => if path.isEmpty then .error (.invalidPath path) else .ok path
  | none => (directory env).map fun path => (path.join programDirectory).join ⟨"config.toml"⟩

def ofContent (path : Path) : FileContent → Except ConfigError Config
  | .missing | .blocked => .error (.missingFile path)
  | .unreadable => .error (.unreadable path)
  | .text text =>
    match ConfigFile.ofText? text with
    | some file => ofFile path.parent file
    | none => .error (.malformed path)

def load (env : Environment) (files : Files) (requested : Option Path) :
    Except ConfigError Config :=
  match path env requested with
  | .error e => if requested.isSome then .error e else .ok {}
  | .ok path =>
    if requested.isNone && !(files.content path).isPresent then .ok {}
    else ofContent path (files.content path)

def compiler (config : Config) : Query.Compiler := ⟨some config.maxDepth⟩

end Config

end TrackSearch
