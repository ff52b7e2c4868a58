import TrackSearch.Command.Answer
import TrackSearch.Command.Failure
import TrackSearch.Command.Invocation
import TrackSearch.Command.LogFilter

/-!
Carrying out a task: the stages that can fail, the log that they leave, and what the program writes in
the end. Everything that the program takes from its surroundings is in a world.
-/

namespace TrackSearch.Command

structure World where
  environment : Environment
  files : Files
  /-- The identifier for the entry at each position of the catalog that gives none. -/
  fresh : Nat → TrackId
  [reports : FileReports]
  [logging : Logging]

/-- A result, and the log up to it. -/
structure Logged (α : Type) where
  log : List LogLine
  result : Except Failure α

namespace Logged

def note (line : LogLine) : Logged Unit := ⟨[line], .ok ()⟩

def ofExcept (cause : ε → Failure) (result : Except ε α) : Logged α := ⟨[], result.mapError cause⟩

def fail (failure : Failure) : Logged α := ⟨[], .error failure⟩

def andThen (first : Logged α) (next : α → Logged β) : Logged β :=
  match first.result with
  | .error failure => ⟨first.log, .error failure⟩
  | .ok a => ⟨first.log ++ (next a).log, (next a).result⟩

instance : Monad Logged where
  pure a := ⟨[], .ok a⟩
  bind := andThen

end Logged

def noteConfig (world : World) (invocation : Invocation) : Logged Unit :=
  letI := world.reports
  if invocation.verbose then
    match Config.path world.environment invocation.config with
    | .ok path => .note (.configFound path (world.files.content path).isPresent)
    | .error e => .note (.configUnavailable e.message)
  else pure ()

def compile (config : Config) (query : String) : Logged Query.Predicate := do
  let tokens ← .ofExcept .query (config.compiler.tokenize query)
  .note (.compiling tokens.length)
  let parse := Query.parse config.compiler.maxDepth tokens
  ⟨parse.events.map .ofEvent, parse.result.mapError .query⟩

def openCatalog (world : World) (invocation : Invocation) (config : Config) : Logged Catalog := do
  let path ← .ofExcept .catalogPath
    (CatalogPath.resolve world.environment invocation.catalog config.catalog)
  .note (.catalogResolved path)
  let catalog ← .ofExcept (.catalog path) (Catalog.ofContent world.fresh (world.files.content path))
  .note (.catalogLoaded path catalog.tracks.length)
  pure catalog

def checkLimit (limit : Option Nat) : Logged Unit :=
  if limit = some 0 then .fail .zeroLimit else pure ()

def readId (text : String) : Logged TrackId :=
  if Text.allBlank text.toList then .fail .emptyId
  else
    match TrackId.ofText? text with
    | some id => pure id
    | none => .fail (.invalidId (String.ofList (Text.trim text.toList)))

def perform (world : World) (invocation : Invocation) (config : Config) : Task → Logged Answer
  | .tokenize query => do
    pure (.tokens (← .ofExcept .query (config.compiler.tokenize query)))
  | .explain query => do
    pure (.predicate (← compile config query))
  | .search query limit => do
    checkLimit limit
    let predicate ← compile config query
    let catalog ← openCatalog world invocation config
    pure (.tracks (catalog.search predicate (limit <|> config.limit)))
  | .show text => do
    let id ← readId text
    let catalog ← openCatalog world invocation config
    match catalog.get? id with
    | some track => pure (.track track)
    | none => .fail (.noTrack id)
  | .tags => do
    let catalog ← openCatalog world invocation config
    pure (.tags catalog.tagCounts)

def answer (world : World) (invocation : Invocation) : Logged Answer := do
  let config ← .ofExcept .config (Config.load world.environment world.files invocation.config)
  noteConfig world invocation
  perform world invocation config invocation.task

structure Outcome where
  exitCode : UInt32
  stdout : String
  stderr : String
  deriving DecidableEq

/-- Whether a line of the log is shown. A setting that cannot be read counts as none. -/
def shows (world : World) (verbose : Bool) (line : LogLine) : Bool :=
  match world.environment.logLevel.bind world.logging.filter? with
  | some letsThrough => letsThrough line
  | none => line.level.rank ≤ (if verbose then Level.debug else Level.warn).rank

def run (world : World) (invocation : Invocation) : Outcome :=
  letI := world.reports
  let logged := answer world invocation
  let shown := (logged.log.filter (shows world invocation.verbose)).map world.logging.write
  match logged.result with
  | .ok found => ⟨0, found.render invocation.json, Answer.unlines shown⟩
  | .error failure =>
    ⟨failure.exitCode, "", Answer.unlines (shown ++ [failure.report invocation.verbose])⟩

def versionText : String := "sift 0.1.0"

def usageText : String :=
  "usage: sift [--catalog PATH] [--config PATH] [--json] [-v] " ++
    "(tokenize QUERY | explain QUERY | search [QUERY] [--limit N] | show ID | tags)"

def Stop.outcome : Stop → Outcome
  | .usage => ⟨2, "", Answer.unlines [usageText]⟩
  | .help => ⟨0, Answer.unlines [usageText], ""⟩
  | .version => ⟨0, Answer.unlines [versionText], ""⟩

def runWords (world : World) (words : List String) : Outcome :=
  match Invocation.ofWords words with
  | .ok invocation => run world invocation
  | .error stop => stop.outcome

end TrackSearch.Command
