import TrackSearch.Command.Run

/-! The result of a run. It comes from the same steps as the log, but from nothing that is logged, so the
exit code and the standard output do not depend on what of the log is shown. -/

namespace TrackSearch.Command

namespace Logged

variable {α β ε : Type} {first : Logged α} {next : α → Logged β}

@[simp]
theorem result_pure (a : α) : (pure a : Logged α).result = .ok a := rfl

@[simp]
theorem result_note (line : LogLine) : (note line).result = .ok () := rfl

@[simp]
theorem result_fail (failure : Failure) : (fail failure : Logged α).result = .error failure := rfl

theorem result_bind (first : Logged α) (next : α → Logged β) :
    (first >>= next).result = first.result >>= fun a => (next a).result := by
  show (first.andThen next).result = _
  rw [andThen]
  cases first.result <;> rfl

theorem result_bind_ok {a : α} (h : first.result = .ok a) : (first >>= next).result = (next a).result := by
  rw [result_bind, h]
  rfl

theorem result_bind_error {failure : Failure} (h : first.result = .error failure) :
    (first >>= next).result = .error failure := by
  rw [result_bind, h]
  rfl

theorem result_bind_eq_ok_iff {b : β} :
    (first >>= next).result = .ok b ↔ ∃ a, first.result = .ok a ∧ (next a).result = .ok b := by
  rw [result_bind]
  cases first.result <;> simp [bind, Except.bind]

@[simp]
theorem result_ofExcept_ok (cause : ε → Failure) (a : α) : (ofExcept cause (.ok a)).result = .ok a := rfl

@[simp]
theorem result_ofExcept_error (cause : ε → Failure) (e : ε) :
    (ofExcept cause (.error e) : Logged α).result = .error (cause e) := rfl

theorem result_ofExcept_eq_ok_iff {cause : ε → Failure} {result : Except ε α} {a : α} :
    (ofExcept cause result).result = .ok a ↔ result = .ok a := by
  cases result <;> simp

end Logged

variable {world : World} {invocation : Invocation}

theorem result_noteConfig : (noteConfig world invocation).result = .ok () := by
  unfold noteConfig
  split
  · split <;> rfl
  · rfl

theorem result_compile (config : Config) (query : String) : (compile config query).result =
    (Logged.ofExcept .query (config.compiler.compile query)).result := by
  rw [compile, Query.Compiler.compile]
  cases htokens : config.compiler.tokenize query with
  | error e => exact Logged.result_bind_error rfl
  | ok tokens =>
    rw [Logged.result_bind_ok (a := tokens) rfl, Logged.result_bind_ok (a := ()) rfl]
    rfl

theorem result_openCatalog_eq_ok_iff {config : Config} {catalog : Catalog} :
    (openCatalog world invocation config).result = .ok catalog ↔ ∃ path,
      CatalogPath.resolve world.environment invocation.catalog config.catalog = .ok path ∧
        Catalog.ofContent world.fresh (world.files.content path) = .ok catalog := by
  simp [openCatalog, Logged.result_bind_eq_ok_iff, Logged.result_ofExcept_eq_ok_iff]

theorem perform_eq (config : Config) (task : Task) (level : Option String) (verbose json : Bool) :
    perform { world with environment := { world.environment with logLevel := level } }
      { invocation with verbose, json } config task = perform world invocation config task := by
  cases task <;> rfl

theorem result_answer (world : World) (invocation : Invocation) : (answer world invocation).result =
    (Config.load world.environment world.files invocation.config).mapError .config >>= fun config =>
      (perform world invocation config invocation.task).result := by
  simp only [answer, Logged.result_bind, result_noteConfig]
  rfl

theorem result_answer_eq (level : Option String) (verbose : Bool) :
    (answer { world with environment := { world.environment with logLevel := level } }
      { invocation with verbose }).result = (answer world invocation).result := by
  rw [result_answer, result_answer]
  exact bind_congr fun config => congrArg Logged.result (perform_eq config _ level verbose _)

theorem answer_eq (json : Bool) : answer world { invocation with json } = answer world invocation := by
  obtain ⟨catalog, config, oldJson, verbose, task⟩ := invocation
  cases task <;> rfl

section Run

variable {found : Answer} {failure : Failure}

theorem run_of_ok (h : (answer world invocation).result = .ok found) :
    (run world invocation).exitCode = 0 ∧
      (run world invocation).stdout = found.render invocation.json := by
  simp [run, h]

theorem run_of_error (h : (answer world invocation).result = .error failure) :
    (run world invocation).exitCode = failure.exitCode ∧ (run world invocation).stdout = "" := by
  simp [run, h]

theorem Failure.exitCode_ne_zero (failure : Failure) : failure.exitCode ≠ 0 := by
  unfold exitCode
  split <;> decide

theorem exitCode_run_eq_zero_iff :
    (run world invocation).exitCode = 0 ↔ ∃ found, (answer world invocation).result = .ok found := by
  cases h : (answer world invocation).result with
  | error failure => simp [run_of_error h, failure.exitCode_ne_zero]
  | ok found => simp [run_of_ok h]

theorem run_eq_of_result_eq {otherWorld : World} {other : Invocation} (hjson : other.json = invocation.json)
    (h : (answer otherWorld other).result = (answer world invocation).result) :
    (run otherWorld other).exitCode = (run world invocation).exitCode ∧
      (run otherWorld other).stdout = (run world invocation).stdout := by
  cases hresult : (answer world invocation).result with
  | error failure =>
    obtain ⟨hcode, hout⟩ := run_of_error hresult
    obtain ⟨hotherCode, hotherOut⟩ := run_of_error (h.trans hresult)
    exact ⟨hotherCode.trans hcode.symm, hotherOut.trans hout.symm⟩
  | ok found =>
    obtain ⟨hcode, hout⟩ := run_of_ok hresult
    obtain ⟨hotherCode, hotherOut⟩ := run_of_ok (h.trans hresult)
    rw [hotherCode, hotherOut, hcode, hout, hjson]
    exact ⟨rfl, rfl⟩

theorem runWords_of_ofWords {words : List String} (h : Invocation.ofWords words = .ok invocation) :
    runWords world words = run world invocation := by
  rw [runWords, h]

end Run

/-- How much of the log is shown makes no difference to the exit code and the standard output, and the
form of the answer makes none to the exit code and what is reported. -/
theorem diagnostics_keep_result {words : List String} (h : Invocation.ofWords words = .ok invocation)
    (world : World) :
    (∀ verbose level words', Invocation.ofWords words' = .ok { invocation with verbose } →
      let world' := { world with environment := { world.environment with logLevel := level } }
      (runWords world' words').exitCode = (runWords world words).exitCode ∧
        (runWords world' words').stdout = (runWords world words).stdout) ∧
    ∀ json words', Invocation.ofWords words' = .ok { invocation with json } →
      (runWords world words').exitCode = (runWords world words).exitCode ∧
        (runWords world words').stderr = (runWords world words).stderr := by
  rw [runWords_of_ofWords h]
  constructor
  · intro verbose level words' h' world'
    rw [runWords_of_ofWords h']
    exact run_eq_of_result_eq rfl (result_answer_eq level verbose)
  · intro json words' h'
    rw [runWords_of_ofWords h', run, run, answer_eq]
    cases (answer world invocation).result <;> exact ⟨rfl, rfl⟩

theorem diagnostics_keep_result_verbose_tokens :
    let world : World := ⟨⟨some "home", some "xdg", none, none⟩, ⟨fun _ => .missing⟩, fun _ => ⟨0⟩⟩
    let loud : World := ⟨⟨some "home", some "xdg", none, some "sift=debug"⟩, world.files, world.fresh⟩
    let words := ["tokenize", "+live (a)"]
    Invocation.ofWords words = .ok ⟨none, none, false, false, .tokenize "+live (a)"⟩ ∧
      (runWords loud ("-v" :: words)).stdout = (runWords world words).stdout ∧
      (runWords loud ("-v" :: words)).stderr ≠ (runWords world words).stderr ∧
      (runWords world ("--json" :: words)).stderr = (runWords world words).stderr ∧
      (runWords world ("--json" :: words)).stdout ≠ (runWords world words).stdout := by
  intro world loud words
  have h : Invocation.ofWords words = .ok ⟨none, none, false, false, .tokenize "+live (a)"⟩ := rfl
  obtain ⟨hverbose, hjson⟩ := diagnostics_keep_result h world
  refine ⟨h, (hverbose true (some "sift=debug") _ ?_).2, ?_, (hjson true _ ?_).2, ?_⟩
  · rfl
  · decide +kernel
  · rfl
  · decide +kernel

end TrackSearch.Command
