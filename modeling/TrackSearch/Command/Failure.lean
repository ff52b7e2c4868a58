import TrackSearch.Catalog.Opening
import TrackSearch.CatalogPath
import TrackSearch.Config
import TrackSearch.Query.SyntaxError

/-!
Why a run fails: how it is reported, from the outermost circumstance to the innermost cause, and the
exit code that goes with it.
-/

namespace TrackSearch.Command

inductive Failure where
  | config (cause : ConfigError)
  | zeroLimit
  | query (cause : Query.SyntaxError)
  | emptyId
  | invalidId (text : String)
  | catalogPath (cause : CatalogPathError)
  | catalog (path : Path) (cause : CatalogError)
  | noTrack (id : TrackId)
  deriving DecidableEq

namespace Failure

def chain [FileReports] : Failure → List String
  | config cause => ["load config", cause.message] ++ cause.causes
  | zeroLimit => ["invalid input: limit must be greater than zero"]
  | query cause => [cause.message]
  | emptyId => ["invalid input: track id cannot be empty"]
  | invalidId text => ["invalid input: invalid track id: " ++ text]
  | catalogPath cause => ["resolve catalog path", cause.message]
  | catalog path cause => ["open catalog " ++ path.text, cause.message path] ++ cause.causes path
  | noTrack id => ["not found: track " ++ id.render]

def report [FileReports] (failure : Failure) (verbose : Bool) : String :=
  "error: " ++
    if verbose then String.intercalate ": " failure.chain else failure.chain.headD ""

def exitCode : Failure → UInt32
  | catalog _ .missing | noTrack _ => 2
  | catalog _ .unreadable | config .missingHome | catalogPath .missingHome => 1
  | _ => 3

end Failure

end TrackSearch.Command
