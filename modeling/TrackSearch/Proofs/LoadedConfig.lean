import Mathlib.Data.Option.Basic
import TrackSearch.CatalogPath
import TrackSearch.Config

/-! Loading a configuration gives all that a file says, in range, or the first of the faults in its way.
The defaults stand in only for a standard file that is not there. -/

namespace TrackSearch

theorem Path.isEmpty_join (directory : Path) {path : Path} (h : path.isEmpty = false) :
    (directory.join path).isEmpty = false := by
  have hpath : path.text ≠ "" := by simpa [isEmpty] using h
  unfold join
  split
  · exact h
  split
  · simp [isEmpty, hpath]
  · simp [isEmpty]

section Faults

variable {α β ε : Type}

def unlessFaulty (faults : List ε) (a : α) : Except ε α :=
  match faults with
  | [] => .ok a
  | fault :: _ => .error fault

theorem unlessFaulty_eq_ok_iff {faults : List ε} {a b : α} :
    unlessFaulty faults a = .ok b ↔ faults = [] ∧ a = b := by
  cases faults <;> simp [unlessFaulty]

theorem unlessFaulty_eq_error_iff {faults : List ε} {a : α} {e : ε} :
    unlessFaulty faults a = .error e ↔ faults.head? = some e := by
  cases faults <;> simp [unlessFaulty]

theorem unlessFaulty_bind {first second : List ε} {a : α} {b : β} {next : α → Except ε β}
    (h : next a = unlessFaulty second b) :
    (unlessFaulty first a >>= next) = unlessFaulty (first ++ second) b := by
  cases first with
  | nil => exact h
  | cons fault others => rfl

def faultOf (isAllowed : α → Bool) (fault : α → ε) (setting : Option α) : List ε :=
  (setting.filter (!isAllowed ·)).toList.map fault

variable {isAllowed : α → Bool} {fault : α → ε}

theorem faultOf_eq_nil_iff {setting : Option α} :
    faultOf isAllowed fault setting = [] ↔ ∀ a ∈ setting, isAllowed a = true := by
  simp [faultOf, Option.filter_eq_none_iff]

theorem unlessFaulty_faultOf (a : α) (b : β) : unlessFaulty (faultOf isAllowed fault (some a)) b =
    if isAllowed a then .ok b else .error (fault a) := by
  cases h : isAllowed a <;> simp [faultOf, unlessFaulty, Option.filter, h]

end Faults

namespace ConfigFile

variable (file : ConfigFile)

def isAllowedDepth (depth : Int) : Bool := 1 ≤ depth ∧ depth ≤ Query.largestMaxDepth

def faults : List ConfigError :=
  faultOf (!·.isEmpty) .invalidCatalogPath file.catalog ++
    (faultOf isAllowedDepth .invalidDepth file.maxDepth ++ faultOf (0 < ·) .invalidLimit file.limit)

def settled (directory : Path) : Config where
  catalog := file.catalog.map fun path => if path.isAbsolute then path else directory.join path
  maxDepth := (file.maxDepth.map Int.toNat).getD Query.defaultMaxDepth
  limit := file.limit.map Int.toNat

theorem faults_eq_nil_iff : file.faults = [] ↔ (∀ path ∈ file.catalog, path.isEmpty = false) ∧
    (∀ n ∈ file.maxDepth, 1 ≤ n ∧ n ≤ Query.largestMaxDepth) ∧ ∀ n ∈ file.limit, 1 ≤ n := by
  simp only [faults, List.append_eq_nil_iff, faultOf_eq_nil_iff, isAllowedDepth, Bool.not_eq_true',
    decide_eq_true_eq]
  exact Iff.rfl

end ConfigFile

namespace Config

open ConfigFile

theorem resolveCatalog_eq (directory : Path) (catalog : Option Path) :
    resolveCatalog directory catalog = unlessFaulty (faultOf (!·.isEmpty) .invalidCatalogPath catalog)
      (catalog.map fun path => if path.isAbsolute then path else directory.join path) := by
  cases catalog with
  | none => rfl
  | some path =>
    have hjoin : directory.join path = if path.isAbsolute then path else directory.join path := by
      unfold Path.join
      split <;> rfl
    rw [unlessFaulty_faultOf, Option.map_some, ← hjoin, resolveCatalog]
    cases path.isEmpty <;> rfl

theorem resolveDepth_eq (depth : Option Int) : resolveDepth depth =
    unlessFaulty (faultOf isAllowedDepth .invalidDepth depth)
      ((depth.map Int.toNat).getD Query.defaultMaxDepth) := by
  cases depth with
  | none => rfl
  | some n =>
    rw [unlessFaulty_faultOf, resolveDepth, Query.validDepth?, isAllowedDepth]
    by_cases h : 1 ≤ n ∧ n ≤ Query.largestMaxDepth
    · simp [h]
    · simp only [h, if_false, decide_false, Bool.false_eq_true]

theorem resolveLimit_eq (limit : Option Int) : resolveLimit limit =
    unlessFaulty (faultOf (0 < ·) .invalidLimit limit) (limit.map Int.toNat) := by
  cases limit with
  | none => rfl
  | some n =>
    rw [unlessFaulty_faultOf, resolveLimit]
    simp only [decide_eq_true_eq, Option.map_some]

theorem ofFile_eq (directory : Path) (file : ConfigFile) :
    ofFile directory file = unlessFaulty file.faults (file.settled directory) := by
  rw [ofFile, resolveCatalog_eq, resolveDepth_eq, resolveLimit_eq, faults]
  refine unlessFaulty_bind (unlessFaulty_bind ?_)
  cases faultOf (0 < ·) ConfigError.invalidLimit file.limit <;> rfl

def contentFaults (path : Path) : FileContent → List ConfigError
  | .missing | .blocked => [.missingFile path]
  | .unreadable => [.unreadable path]
  | .text text =>
    match ConfigFile.ofText? text with
    | none => [.malformed path]
    | some file => file.faults

/-- All that stands in the way of the configuration at a path: the path, what lies there, and the settings
that are read from it. -/
def faultsAt (files : Files) (path : Path) : List ConfigError :=
  (if path.isEmpty then [.invalidPath path] else []) ++ contentFaults path (files.content path)

def Says (files : Files) (path : Path) (config : Config) : Prop :=
  ∃ text file, files.content path = .text text ∧ ConfigFile.ofText? text = some file ∧
    file.faults = [] ∧ config = file.settled path.parent

section Load

variable {env : Environment} {files : Files} {path : Path} {config : Config} {e : ConfigError}

theorem ofContent_eq_error_iff {content : FileContent} :
    ofContent path content = .error e ↔ (contentFaults path content).head? = some e := by
  cases content with
  | missing => simp [ofContent, contentFaults]
  | blocked => simp [ofContent, contentFaults]
  | unreadable => simp [ofContent, contentFaults]
  | text text =>
    rw [ofContent, contentFaults]
    cases ConfigFile.ofText? text with
    | none => simp
    | some file =>
      dsimp only
      rw [ofFile_eq, unlessFaulty_eq_error_iff]

theorem ofContent_eq_ok_iff :
    ofContent path (files.content path) = .ok config ↔ Says files path config := by
  unfold Says
  cases files.content path with
  | missing => simp [ofContent]
  | blocked => simp [ofContent]
  | unreadable => simp [ofContent]
  | text text =>
    rw [ofContent]
    cases hfile : ConfigFile.ofText? text with
    | none => simp [hfile]
    | some file =>
      dsimp only
      rw [ofFile_eq, unlessFaulty_eq_ok_iff]
      constructor
      · rintro ⟨hfaults, hsettled⟩
        exact ⟨text, file, rfl, hfile, hfaults, hsettled.symm⟩
      · rintro ⟨_, _, htext, hother, hfaults, rfl⟩
        obtain rfl := FileContent.text.inj htext
        obtain rfl := Option.some.inj (hfile.symm.trans hother)
        exact ⟨hfaults, rfl⟩

theorem load_requested (env : Environment) (files : Files) (path : Path) : load env files (some path) =
    if path.isEmpty then .error (.invalidPath path) else ofContent path (files.content path) := by
  rw [load, Config.path]
  cases path.isEmpty <;> rfl

theorem load_requested_eq_error_iff :
    load env files (some path) = .error e ↔ (faultsAt files path).head? = some e := by
  rw [load_requested, faultsAt]
  cases path.isEmpty with
  | true => simp
  | false => exact ofContent_eq_error_iff

theorem load_requested_eq_ok_iff :
    load env files (some path) = .ok config ↔ path.isEmpty = false ∧ Says files path config := by
  rw [load_requested]
  cases path.isEmpty with
  | true => simp
  | false => simpa using ofContent_eq_ok_iff

def standardPath (env : Environment) (home : Path) : Path :=
  (((env.configHome.map Path.mk).getD (home.join ⟨".config"⟩)).join programDirectory).join ⟨"config.toml"⟩

theorem isEmpty_standardPath (env : Environment) (home : Path) : (standardPath env home).isEmpty = false :=
  Path.isEmpty_join _ (by decide)

theorem path_standard {home : Path} (hhome : env.homePath? = some home) (h : env.configHome ≠ some "") :
    Config.path env none = .ok (standardPath env home) := by
  rw [Config.path, directory, standardPath]
  cases hconfig : env.configHome with
  | none =>
    rw [hhome]
    rfl
  | some text =>
    have htext : text.isEmpty = false := by simpa [hconfig] using h
    dsimp only
    rw [htext]
    rfl

theorem load_standard {home : Path} (hhome : env.homePath? = some home) : load env files none =
    if env.configHome = some "" ∨ (files.content (standardPath env home)).isPresent = false then .ok {}
    else load env files (some (standardPath env home)) := by
  by_cases h : env.configHome = some ""
  · simp [load, Config.path, directory, h, Except.map]
  · rw [load_requested, isEmpty_standardPath, load, path_standard hhome h]
    cases hpresent : (files.content (standardPath env home)).isPresent <;> simp [h, hpresent]

theorem says_of_load {requested : Option Path} (h : load env files requested = .ok config) :
    config = {} ∨ ∃ path, Says files path config := by
  unfold load at h
  split at h
  · split at h
    · contradiction
    · exact Or.inl (Except.ok.inj h).symm
  · next path _ =>
    split at h
    · exact Or.inl (Except.ok.inj h).symm
    · exact Or.inr ⟨path, ofContent_eq_ok_iff.1 h⟩

structure InRange (config : Config) : Prop where
  maxDepth : 1 ≤ config.maxDepth ∧ config.maxDepth ≤ 1024
  limit : ∀ n ∈ config.limit, 1 ≤ n
  catalog : ∀ path ∈ config.catalog, path.isEmpty = false

theorem inRange_default : InRange {} := ⟨by decide, by simp, by simp⟩

theorem inRange_settled {file : ConfigFile} (h : file.faults = []) (directory : Path) :
    InRange (file.settled directory) := by
  obtain ⟨hcatalog, hdepth, hlimit⟩ := file.faults_eq_nil_iff.1 h
  constructor
  · rw [ConfigFile.settled]
    cases hn : file.maxDepth with
    | none =>
      show 1 ≤ Query.defaultMaxDepth ∧ Query.defaultMaxDepth ≤ 1024
      decide
    | some n =>
      have := hdepth n hn
      simp only [Option.map_some, Option.getD_some, Query.largestMaxDepth] at this ⊢
      omega
  · intro n hn
    obtain ⟨m, hm, rfl⟩ := Option.map_eq_some_iff.1 hn
    have := hlimit m hm
    omega
  · intro path hpath
    obtain ⟨given, hgiven, rfl⟩ := Option.map_eq_some_iff.1 hpath
    split
    · exact hcatalog given hgiven
    · exact Path.isEmpty_join directory (hcatalog given hgiven)

theorem inRange_of_load {requested : Option Path} (h : load env files requested = .ok config) :
    InRange config := by
  rcases says_of_load h with rfl | ⟨path, text, file, -, -, hfaults, rfl⟩
  · exact inRange_default
  · exact inRange_settled hfaults path.parent

theorem resolve_configured (h : InRange config) {path : Path} (hpath : config.catalog = some path) :
    CatalogPath.resolve env none config.catalog = .ok path := by
  have hne : path.isEmpty = false := h.catalog path hpath
  simp [CatalogPath.resolve, hpath, hne]

end Load

/-- A configuration that is asked for is what the file says, or the first fault is reported; the standard
file is loaded like any other, but may be missing; and what is loaded is in range. -/
theorem load_file_or_first_fault (env : Environment) (files : Files) {home : Path}
    (hhome : env.homePath? = some home) :
    (∀ path, (∀ config, load env files (some path) = .ok config ↔
        path.isEmpty = false ∧ Says files path config) ∧
      ∀ e, load env files (some path) = .error e ↔ (faultsAt files path).head? = some e) ∧
    (load env files none =
      if env.configHome = some "" ∨ (files.content (standardPath env home)).isPresent = false then .ok {}
      else load env files (some (standardPath env home))) ∧
    ∀ requested config, load env files requested = .ok config →
      (1 ≤ config.maxDepth ∧ config.maxDepth ≤ 1024) ∧
      config.compiler.maxDepth = some config.maxDepth ∧ (∀ n ∈ config.limit, 1 ≤ n) ∧
      ∀ path, config.catalog = some path →
        path.isEmpty = false ∧ CatalogPath.resolve env none config.catalog = .ok path := by
  refine ⟨fun path => ⟨fun config => load_requested_eq_ok_iff, fun e => load_requested_eq_error_iff⟩,
    load_standard hhome, fun requested config h => ?_⟩
  have hrange := inRange_of_load h
  exact ⟨hrange.maxDepth, rfl, hrange.limit, fun path hpath =>
    ⟨hrange.catalog path hpath, resolve_configured hrange hpath⟩⟩

theorem load_file_or_first_fault_two_faults :
    let env : Environment := ⟨some "/home/ann", none, none, none⟩
    let files : Files := ⟨fun path => if path = ⟨"/home/ann/.config/sift/config.toml"⟩ then
      .text "catalog = \"c.json\"\nquery = [0]\noutput.limit = -1" else .missing⟩
    env.homePath? = some ⟨"/home/ann"⟩ ∧ load env files none = .error (.invalidDepth 0) := by
  intro env files
  have hhome : env.homePath? = some ⟨"/home/ann"⟩ := by decide
  obtain ⟨hrequested, hstandard, -⟩ := load_file_or_first_fault env files hhome
  refine ⟨hhome, ?_⟩
  rw [hstandard, if_neg (by decide +kernel)]
  refine ((hrequested _).2 _).2 ?_
  decide +kernel

end Config

end TrackSearch
