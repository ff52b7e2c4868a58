import TrackSearch.Command.Run

/-!
The program: it takes the words of the command line, the environment and at most two files, the
configuration and the catalog, and writes what the run leaves behind.
-/

namespace TrackSearch

def readContent (path : Path) : IO FileContent := do
  match ← (IO.FS.Handle.mk path.text .read).toBaseIO with
  | .error (.noFileOrDirectory ..) => pure .missing
  | .error _ =>
    match ← (IO.FS.realPath path.text).toBaseIO with
    | .ok _ => pure .unreadable
    | .error _ => pure .blocked
  | .ok file =>
    match ← file.readBinToEnd.toBaseIO with
    | .ok bytes => pure (.ofBytes bytes)
    | .error _ => pure .unreadable

def readEnvironment : IO Environment := do
  pure ⟨← IO.getEnv "HOME", ← IO.getEnv "XDG_CONFIG_HOME", ← IO.getEnv "XDG_DATA_HOME",
    ← IO.getEnv "RUST_LOG"⟩

def freshIds : IO (Nat → TrackId) := do
  let bytes ← IO.getRandomBytes 16
  let start := bytes.foldl (fun n byte => 256 * n + byte.toNat) 0
  pure fun index => ⟨BitVec.ofNat 128 (start + index)⟩

def readFiles (env : Environment) (invocation : Command.Invocation) : IO Files := do
  let noFiles : Path → FileContent := fun _ => .missing
  let withConfig ← match Config.path env invocation.config with
    | .ok path => do
      let content ← readContent path
      pure fun p => if p = path then content else noFiles p
    | .error _ => pure noFiles
  let configured := match Config.load env ⟨withConfig⟩ invocation.config with
    | .ok config => config.catalog
    | .error _ => none
  match CatalogPath.resolve env invocation.catalog configured with
  | .ok path => do
    let content ← readContent path
    pure ⟨fun p => if p = path then content else withConfig p⟩
  | .error _ => pure ⟨withConfig⟩

end TrackSearch

open TrackSearch in
def main (words : List String) : IO UInt32 := do
  let outcome ← match Command.Invocation.ofWords words with
    | .error stop => pure stop.outcome
    | .ok invocation => do
      let environment ← readEnvironment
      let files ← readFiles environment invocation
      pure (Command.run ⟨environment, files, ← freshIds⟩ invocation)
  IO.print outcome.stdout
  IO.eprint outcome.stderr
  pure outcome.exitCode
