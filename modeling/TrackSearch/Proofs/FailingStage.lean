import Mathlib.Data.List.TakeWhile
import TrackSearch.Command.Stage
import TrackSearch.Proofs.LoadedConfig
import TrackSearch.Proofs.RunResult

/-! A run ends with the first of its stages that is not passed, and that stage settles the exit code. -/

namespace TrackSearch

namespace Config

variable {env : Environment} {files : Files} {requested : Option Path}

theorem missingHome_notMem_contentFaults (path : Path) (content : FileContent) :
    ConfigError.missingHome ∉ contentFaults path content := by
  unfold contentFaults
  split
  · simp
  · simp
  · simp
  · split
    · simp
    · simp [ConfigFile.faults, faultOf]

theorem load_ne_missingHome : load env files requested ≠ .error .missingHome := by
  intro h
  have hcontent : ∀ path, ofContent path (files.content path) ≠ .error .missingHome := fun path hpath =>
    missingHome_notMem_contentFaults path _ (List.mem_of_mem_head? (ofContent_eq_error_iff.1 hpath))
  cases requested with
  | none =>
    unfold load at h
    split at h
    · contradiction
    split at h
    · contradiction
    · exact hcontent _ h
  | some path =>
    rw [load_requested] at h
    split at h
    · cases h
    · exact hcontent path h

end Config

theorem CatalogPath.resolve_ne_missingHome {env : Environment} {requested configured : Option Path}
    (hhome : env.homePath?.isSome) : resolve env requested configured ≠ .error .missingHome := by
  obtain ⟨home, hhome⟩ := Option.isSome_iff_exists.1 hhome
  intro h
  unfold resolve at h
  split at h
  · split at h <;> cases h
  · rw [standard, dataDirectory, hhome] at h
    split at h
    · split at h <;> cases h
    · cases h

theorem TrackId.ofText?_of_allBlank {text : String} (h : Text.allBlank text.toList = true) :
    ofText? text = none := by
  have htrim : Text.trimLeft text.toList = [] := by
    simpa [Text.trimLeft, Text.allBlank, List.dropWhile_eq_nil_iff] using h
  rw [ofText?, Text.trim, htrim]
  rfl

namespace Command

variable {world : World} {invocation : Invocation}

/-- A result comes from stages: it is there if all are passed, and else the first that is not passed gives
the failure its exit code. -/
inductive Follows (world : World) (invocation : Invocation) {α : Type} :
    List Stage → Except Failure α → Prop
  | done (a : α) : Follows world invocation [] (.ok a)
  | passed {stage stages result} : stage.passes world invocation = true →
      Follows world invocation stages result → Follows world invocation (stage :: stages) result
  | failed {stage stages failure} : stage.passes world invocation = false →
      failure.exitCode = stage.exitCode world invocation →
      Follows world invocation (stage :: stages) (.error failure)

namespace Follows

variable {α β : Type} {stage : Stage} {stages : List Stage} {result : Except Failure α}

theorem bind {more : List Stage} {first : Logged α} {next : α → Logged β}
    (hfirst : Follows world invocation stages first.result)
    (hnext : ∀ a, first.result = .ok a → Follows world invocation more (next a).result) :
    Follows world invocation (stages ++ more) (first >>= next).result := by
  rw [Logged.result_bind]
  generalize first.result = result at hfirst hnext
  induction hfirst with
  | done a => exact hnext a rfl
  | passed hpasses _ ih => exact .passed hpasses (ih hnext)
  | failed hpasses hcode => exact .failed hpasses hcode

theorem cons {first : Logged α} {next : α → Logged β}
    (hfirst : Follows world invocation [stage] first.result)
    (hnext : ∀ a, first.result = .ok a → Follows world invocation stages (next a).result) :
    Follows world invocation (stage :: stages) (first >>= next).result :=
  hfirst.bind hnext

theorem step {first : Logged α} {next : α → Logged β} {a : α} (hfirst : first.result = .ok a)
    (hnext : Follows world invocation stages (next a).result) :
    Follows world invocation stages (first >>= next).result := by
  rw [Logged.result_bind_ok hfirst]
  exact hnext

theorem exists_ok_iff (h : Follows world invocation stages result) :
    (∃ a, result = .ok a) ↔ ∀ stage ∈ stages, stage.passes world invocation = true := by
  induction h with
  | done a => simp
  | passed hpasses _ ih => simp [ih, hpasses]
  | failed hpasses _ => simp [hpasses]

theorem of_first {before after : List Stage}
    (h : Follows world invocation (before ++ stage :: after) result)
    (hbefore : ∀ earlier ∈ before, earlier.passes world invocation = true)
    (hstage : stage.passes world invocation = false) :
    ∃ failure, result = .error failure ∧ failure.exitCode = stage.exitCode world invocation := by
  induction before with
  | nil =>
    cases h with
    | passed hpasses _ =>
      rw [hstage] at hpasses
      contradiction
    | failed _ hcode => exact ⟨_, rfl, hcode⟩
  | cons earlier before ih =>
    cases h with
    | passed _ hrest => exact ih hrest fun other hother => hbefore other (List.mem_cons_of_mem earlier hother)
    | failed hpasses _ =>
      rw [hbefore earlier List.mem_cons_self] at hpasses
      contradiction

theorem ofExcept {ε : Type} {cause : ε → Failure} {given : Except ε α}
    (hpasses : stage.passes world invocation = given.isOk)
    (hcode : ∀ e, given = .error e → (cause e).exitCode = stage.exitCode world invocation) :
    Follows world invocation [stage] (Logged.ofExcept cause given).result := by
  cases given with
  | ok a => exact .passed hpasses (.done a)
  | error e => exact .failed hpasses (hcode e rfl)

end Follows

theorem isSome_toOption {α ε : Type} (given : Except ε α) : given.toOption.isSome = given.isOk := by
  cases given <;> rfl

theorem toOption_eq_some {α ε : Type} {given : Except ε α} {a : α} (h : given = .ok a) :
    given.toOption = some a := by
  rw [h]
  rfl

theorem follows_load : Follows world invocation [.config]
    (Logged.ofExcept .config (Config.load world.environment world.files invocation.config)).result := by
  refine .ofExcept (isSome_toOption _) fun e he => ?_
  cases e with
  | missingHome => exact absurd he Config.load_ne_missingHome
  | _ => rfl

theorem follows_checkLimit (n : Option Nat) : Follows world invocation [.limit n] (checkLimit n).result := by
  unfold checkLimit
  split
  · next h => exact .failed (by simp [Stage.passes, h]) rfl
  · next h => exact .passed (by simp [Stage.passes, h]) (.done ())

theorem result_readId (text : String) :
    (∃ id, TrackId.ofText? text = some id ∧ (readId text).result = .ok id) ∨
      TrackId.ofText? text = none ∧
        ∃ failure, (readId text).result = .error failure ∧ failure.exitCode = 3 := by
  unfold readId
  split
  · next h => exact Or.inr ⟨TrackId.ofText?_of_allBlank h, _, rfl, rfl⟩
  · cases TrackId.ofText? text with
    | none => exact Or.inr ⟨rfl, _, rfl, rfl⟩
    | some id => exact Or.inl ⟨id, rfl, rfl⟩

theorem follows_readId (text : String) :
    Follows world invocation [.identifier text] (readId text).result := by
  rcases result_readId text with ⟨id, hid, hresult⟩ | ⟨hid, failure, hresult, hcode⟩
  · rw [hresult]
    exact .passed (by simp [Stage.passes, hid]) (.done id)
  · rw [hresult]
    exact .failed (by simp [Stage.passes, hid]) hcode

theorem ofText?_of_result_readId {text : String} {id : TrackId} (h : (readId text).result = .ok id) :
    TrackId.ofText? text = some id := by
  rcases result_readId text with ⟨found, hfound, hresult⟩ | ⟨-, failure, hresult, -⟩
  · obtain rfl := Except.ok.inj (hresult.symm.trans h)
    exact hfound
  · cases hresult.symm.trans h

theorem exitCode_catalog {fresh : Nat → TrackId} {content : FileContent} {cause : CatalogError} (path : Path)
    (h : Catalog.ofContent fresh content = .error cause) :
    (Failure.catalog path cause).exitCode = contentExitCode content := by
  cases content with
  | missing => cases h; rfl
  | blocked => cases h; rfl
  | unreadable => cases h; rfl
  | text text =>
    rw [Catalog.ofContent] at h
    cases hread : Catalog.ofText fresh text with
    | ok catalog =>
      rw [hread] at h
      cases h
    | error fault =>
      rw [hread] at h
      cases h
      rfl

section Configured

variable {config : Config}

theorem catalogPath?_eq (hconfig : config? world invocation = some config) : catalogPath? world invocation =
    (CatalogPath.resolve world.environment invocation.catalog config.catalog).toOption := by
  rw [catalogPath?, hconfig]
  rfl

theorem catalogContent?_eq (hconfig : config? world invocation = some config) {path : Path}
    (hpath : CatalogPath.resolve world.environment invocation.catalog config.catalog = .ok path) :
    catalogContent? world invocation = some (world.files.content path) := by
  rw [catalogContent?, catalogPath?_eq hconfig, hpath]
  rfl

theorem follows_tokens (hconfig : config? world invocation = some config) (query : String) :
    Follows world invocation [.tokens query]
      (Logged.ofExcept .query (config.compiler.tokenize query)).result := by
  refine .ofExcept ?_ fun _ _ => rfl
  rw [Stage.passes, hconfig]
  rfl

theorem follows_compile (hconfig : config? world invocation = some config) (query : String) :
    Follows world invocation [.predicate query] (compile config query).result := by
  rw [result_compile]
  refine .ofExcept ?_ fun _ _ => rfl
  rw [Stage.passes, hconfig]
  rfl

theorem follows_openCatalog (hhome : world.environment.homePath?.isSome)
    (hconfig : config? world invocation = some config) :
    Follows world invocation [.catalogPath, .catalog] (openCatalog world invocation config).result := by
  refine .cons (.ofExcept ?_ fun e he => ?_) fun path hpath => ?_
  · rw [Stage.passes, catalogPath?_eq hconfig, isSome_toOption]
  · cases e with
    | missingHome => exact absurd he (CatalogPath.resolve_ne_missingHome hhome)
    | invalidDataPath path => rfl
  -- From here on the path is known, and what lies there tells the failures of opening apart.
  have hcontent := catalogContent?_eq hconfig (Logged.result_ofExcept_eq_ok_iff.1 hpath)
  refine .step rfl (.cons (.ofExcept ?_ fun e he => ?_) fun catalog _ => ?_)
  · rw [Stage.passes, catalog?, hcontent]
    exact isSome_toOption _
  · rw [Stage.exitCode, hcontent, exitCode_catalog path he]
    rfl
  · exact .step rfl (.done catalog)

theorem catalog?_eq (hconfig : config? world invocation = some config) {catalog : Catalog}
    (h : (openCatalog world invocation config).result = .ok catalog) :
    catalog? world invocation = some catalog := by
  obtain ⟨path, hpath, hcatalog⟩ := result_openCatalog_eq_ok_iff.1 h
  rw [catalog?, catalogContent?_eq hconfig hpath]
  exact toOption_eq_some hcatalog

theorem follows_get? (hconfig : config? world invocation = some config) {text : String} {id : TrackId}
    {catalog : Catalog} (hid : (readId text).result = .ok id)
    (hcatalog : (openCatalog world invocation config).result = .ok catalog) :
    Follows world invocation [.track text] (match catalog.get? id with
      | some track => (pure (.track track) : Logged Answer)
      | none => .fail (.noTrack id)).result := by
  have htrack : track? world invocation text = catalog.get? id := by
    rw [track?, catalog?_eq hconfig hcatalog, ofText?_of_result_readId hid]
    rfl
  cases hget : catalog.get? id with
  | none =>
    refine .failed ?_ rfl
    rw [Stage.passes, htrack, hget]
    rfl
  | some track =>
    refine .passed ?_ (.done _)
    rw [Stage.passes, htrack, hget]
    rfl

theorem follows_perform (hhome : world.environment.homePath?.isSome)
    (hconfig : config? world invocation = some config) (task : Task) :
    Follows world invocation task.stages.tail (perform world invocation config task).result := by
  have hopen := follows_openCatalog hhome hconfig
  cases task with
  | tokenize query => exact (follows_tokens hconfig query).bind fun tokens _ => .done _
  | explain query => exact (follows_compile hconfig query).bind fun predicate _ => .done _
  | search query limit =>
    refine (follows_checkLimit limit).bind fun _ _ => ?_
    refine (follows_compile hconfig query).bind fun predicate _ => ?_
    exact hopen.bind fun catalog _ => .done _
  | «show» text =>
    refine (follows_readId text).bind fun id hid => ?_
    refine hopen.bind fun catalog hcatalog => ?_
    exact follows_get? hconfig hid hcatalog
  | tags => exact hopen.bind fun catalog _ => .done _

end Configured

theorem Task.stages_eq (task : Task) : task.stages = .config :: task.stages.tail := by
  cases task <;> rfl

theorem follows_answer (invocation : Invocation) (hhome : world.environment.homePath?.isSome) :
    Follows world invocation invocation.task.stages (answer world invocation).result := by
  rw [invocation.task.stages_eq]
  refine follows_load.cons fun config hconfig => .step result_noteConfig ?_
  have hloaded := toOption_eq_some (Logged.result_ofExcept_eq_ok_iff.1 hconfig)
  exact follows_perform hhome hloaded invocation.task

theorem stage_exitCode (stage : Stage) :
    (stage.exitCode world invocation = 2 ↔
      (stage = .catalog ∧ catalogContent? world invocation = some .missing) ∨
        ∃ text, stage = .track text) ∧
    (stage.exitCode world invocation = 1 ↔ stage = .catalog ∧
      (catalogContent? world invocation = some .unreadable ∨
        catalogContent? world invocation = some .blocked)) ∧
    (stage.exitCode world invocation = 1 ∨ stage.exitCode world invocation = 2 ∨
      stage.exitCode world invocation = 3) := by
  cases stage with
  | catalog => rcases h : catalogContent? world invocation with _ | _ | _ | _ | _ <;>
      simp [Stage.exitCode, h, contentExitCode]
  | _ => simp [Stage.exitCode]

/-- A run succeeds exactly if every stage of its task is passed. Otherwise it writes no output, and the
first stage that is not passed settles the exit code: 2 where there is no catalog or no such track, 1 where
what lies at the catalog's path cannot be read or can be nothing, and 3 for all else. -/
theorem exit_settled_by_first_failing_stage {words : List String} {invocation : Invocation} {world : World}
    (haccepted : Invocation.ofWords words = .ok invocation)
    (hhome : world.environment.homePath?.isSome) :
    ((runWords world words).exitCode = 0 ↔
      ∀ stage ∈ invocation.task.stages, stage.passes world invocation = true) ∧
    ∀ before stage after, invocation.task.stages = before ++ stage :: after →
      (∀ earlier ∈ before, earlier.passes world invocation = true) →
      stage.passes world invocation = false →
      (runWords world words).stdout = "" ∧
      ((runWords world words).exitCode = 2 ↔
        (stage = .catalog ∧ catalogContent? world invocation = some .missing) ∨
          ∃ text, stage = .track text) ∧
      ((runWords world words).exitCode = 1 ↔ stage = .catalog ∧
        (catalogContent? world invocation = some .unreadable ∨
          catalogContent? world invocation = some .blocked)) ∧
      ((runWords world words).exitCode = 1 ∨ (runWords world words).exitCode = 2 ∨
        (runWords world words).exitCode = 3) := by
  have hfollows := follows_answer invocation hhome
  rw [runWords_of_ofWords haccepted]
  refine ⟨exitCode_run_eq_zero_iff.trans hfollows.exists_ok_iff, ?_⟩
  intro before stage after hstages hbefore hstage
  obtain ⟨failure, hfailure, hcode⟩ := Follows.of_first (hstages ▸ hfollows) hbefore hstage
  obtain ⟨hexit, hout⟩ := run_of_error hfailure
  rw [hexit, hcode]
  exact ⟨hout, stage_exitCode stage⟩

theorem exit_settled_by_open_bracket :
    let world : World := ⟨⟨some "home", some "xdg", none, none⟩, ⟨fun _ => .missing⟩, fun _ => ⟨0⟩⟩
    let words := ["--catalog", "c.json", "search", "(a"]
    let invocation : Invocation := ⟨some ⟨"c.json"⟩, none, false, false, .search "(a" none⟩
    Invocation.ofWords words = .ok invocation ∧ world.environment.homePath?.isSome ∧
      catalogContent? world invocation = some .missing ∧ (runWords world words).exitCode = 3 := by
  intro world words invocation
  have haccepted : Invocation.ofWords words = .ok invocation := rfl
  have hhome : world.environment.homePath?.isSome := by decide
  obtain ⟨-, hfirst⟩ := exit_settled_by_first_failing_stage haccepted hhome
  obtain ⟨-, htwo, hone, hcode⟩ := hfirst [.config, .limit none] (.predicate "(a") [.catalogPath, .catalog]
    rfl (by decide +kernel) (by decide +kernel)
  refine ⟨haccepted, hhome, by decide +kernel, ?_⟩
  rcases hcode with h | h | h
  · cases (hone.1 h).1
  · rcases htwo.1 h with ⟨⟨⟩, -⟩ | ⟨_, ⟨⟩⟩
  · exact h

theorem exit_one_without_catalog : ¬∀ (world : World) (words : List String) (invocation : Invocation),
    Invocation.ofWords words = .ok invocation → world.environment.homePath?.isSome →
      (runWords world words).exitCode = 1 →
        ∃ content ∈ catalogContent? world invocation, content.isPresent = true := by
  intro h
  let tree := FileTree.ofList [(⟨"c.json"⟩, .file ByteArray.empty)]
  let world : World := ⟨⟨some "home", some "xdg", none, none⟩, tree.files, fun _ => ⟨0⟩⟩
  let invocation : Invocation := ⟨some ⟨"c.json/d.json"⟩, none, false, false, .tags⟩
  obtain ⟨content, hcontent, hpresent⟩ := h world ["--catalog", "c.json/d.json", "tags"] invocation rfl
    (by decide) (by decide +kernel)
  have hblocked : catalogContent? world invocation = some .blocked := by decide +kernel
  obtain rfl := Option.some.inj (hblocked.symm.trans hcontent)
  contradiction

end Command

end TrackSearch
