import TrackSearch.Command.Run

/-!
The stages of a task, in the order in which they are taken. A stage is passed if it gives what is asked
of it, and what rests on an earlier stage is given only where that one is passed.
-/

namespace TrackSearch.Command

inductive Stage where
  | config
  | limit (n : Option Nat)
  | tokens (query : String)
  | predicate (query : String)
  | identifier (text : String)
  | catalogPath
  | catalog
  | track (text : String)
  deriving DecidableEq

def Task.stages : Task → List Stage
  | .tokenize query => [.config, .tokens query]
  | .explain query => [.config, .predicate query]
  | .search query limit => [.config, .limit limit, .predicate query, .catalogPath, .catalog]
  | .show text => [.config, .identifier text, .catalogPath, .catalog, .track text]
  | .tags => [.config, .catalogPath, .catalog]

/-- The exit code of a run that finds no catalog in this content. -/
def contentExitCode : FileContent → UInt32
  | .missing => 2
  | .unreadable | .blocked => 1
  | .text _ => 3

section

variable (world : World) (invocation : Invocation)

def config? : Option Config :=
  (Config.load world.environment world.files invocation.config).toOption

def catalogPath? : Option Path := do
  let config ← config? world invocation
  (CatalogPath.resolve world.environment invocation.catalog config.catalog).toOption

def catalogContent? : Option FileContent := (catalogPath? world invocation).map world.files.content

def catalog? : Option Catalog := do
  let content ← catalogContent? world invocation
  (Catalog.ofContent world.fresh content).toOption

def track? (text : String) : Option Track := do
  let catalog ← catalog? world invocation
  catalog.get? (← TrackId.ofText? text)

def Stage.passes : Stage → Bool
  | .config => (config? world invocation).isSome
  | .limit n => n != some 0
  | .tokens query => (config? world invocation).any (·.compiler.tokenize query |>.isOk)
  | .predicate query => (config? world invocation).any (·.compiler.compile query |>.isOk)
  | .identifier text => (TrackId.ofText? text).isSome
  | .catalogPath => (catalogPath? world invocation).isSome
  | .catalog => (catalog? world invocation).isSome
  | .track text => (track? world invocation text).isSome

def Stage.exitCode : Stage → UInt32
  | .catalog => ((catalogContent? world invocation).map contentExitCode).getD 3
  | .track _ => 2
  | _ => 3

end

end TrackSearch.Command
