import TrackSearch.Proofs.LoadedConfig
import TrackSearch.Proofs.ParseStep
import TrackSearch.Proofs.ReopenedCatalog
import TrackSearch.Proofs.RunResult

/-! What a search lists: the first of the tracks that match, as many as the limit lets through, and the
same ones as lines of text and as JSON. -/

namespace TrackSearch

structure IsStart {α : Type} (limit : Option Nat) (listed all : List α) : Prop where
  initial : listed <+: all
  length : ∀ n, limit = some n → listed.length = min n all.length
  eq_of_none : limit = none → listed = all

theorem IsStart.eq_nil_iff {α : Type} {limit : Option Nat} {listed all : List α}
    (h : IsStart limit listed all) (hpositive : ∀ n ∈ limit, 1 ≤ n) : listed = [] ↔ all = [] := by
  cases hlimit : limit with
  | none => rw [h.eq_of_none hlimit]
  | some n =>
    have hlength := h.length n hlimit
    have hn := hpositive n hlimit
    rw [← List.length_eq_zero_iff, ← List.length_eq_zero_iff, hlength]
    omega

namespace Catalog

theorem search_isStart (catalog : Catalog) (predicate : Query.Predicate) (limit : Option Nat) :
    IsStart limit (catalog.search predicate limit)
      (catalog.tracks.filter fun t => predicate.holds t.record) := by
  cases limit with
  | none => exact ⟨List.prefix_rfl, by simp, fun _ => rfl⟩
  | some n =>
    refine ⟨List.take_prefix n _, ?_, by simp⟩
    rintro _ ⟨⟩
    exact List.length_take

end Catalog

namespace Command

variable {world : World} {invocation : Invocation} {listed : List Track}

/-! The two forms of a listing. -/

theorem unlines_cons (line : String) (lines : List String) :
    (Answer.unlines (line :: lines)).toList = line.toList ++ '\n' :: (Answer.unlines lines).toList := by
  simp [Answer.unlines, String.join_cons]

theorem render_text (listed : List Track) : (Answer.tracks listed).render false =
    Answer.unlines (if listed.isEmpty then ["no tracks"] else listed.map Answer.trackLine) := by
  cases listed <;> rfl

theorem render_json (listed : List Track) : (Answer.tracks listed).render true =
    (Json.array (listed.map Answer.entryJson)).pretty ++ "\n" := by
  simp [Answer.render, Answer.unlines, Answer.toJson, String.join_cons]

theorem trackLine_eq (t : Track) : ∃ rest, (Answer.trackLine t).toList = t.id.chars ++ rest := by
  simp only [Answer.trackLine, TrackId.render, String.toList_append, String.toList_ofList,
    List.append_assoc]
  exact ⟨_, rfl⟩

theorem ofSpelling?_trackLine (t : Track) :
    TrackId.ofSpelling? ((Answer.trackLine t).toList.take 36) = some t.id := by
  obtain ⟨rest, hrest⟩ := trackLine_eq t
  rw [hrest, List.take_left' t.id.length_chars, t.id.ofSpelling?_chars]

theorem read?_render_json (listed : List Track) (fresh : Nat → TrackId) :
    ((Json.read? ((Answer.tracks listed).render true)).bind Json.array?).bind
      (Catalog.tracksOfJson? fresh) = some listed := by
  rw [render_json, Json.read?_line]
  exact Catalog.tracksOfJson?_map fresh listed

theorem render_text_eq_iff : (Answer.tracks listed).render false = "no tracks\n" ↔ listed = [] := by
  constructor
  · intro h
    cases listed with
    | nil => rfl
    | cons t listed =>
      obtain ⟨rest, hrest⟩ := trackLine_eq t
      have hlength := congrArg (fun text => text.toList.length) h
      simp only [render_text, List.isEmpty_cons, Bool.false_eq_true, if_false, List.map_cons,
        unlines_cons, hrest, List.length_append, t.id.length_chars] at hlength
      have hten : "no tracks\n".toList.length = 10 := rfl
      omega
  · rintro rfl
    rfl

theorem render_json_eq_iff : (Answer.tracks listed).render true = "[]\n" ↔ listed = [] := by
  constructor
  · intro h
    have hlisted := read?_render_json listed fun _ => ⟨0⟩
    have hempty := read?_render_json [] fun _ => ⟨0⟩
    rw [h] at hlisted
    exact Option.some.inj (hlisted.symm.trans hempty)
  · rintro rfl
    rfl

/-! The search. -/

theorem result_checkLimit_eq_ok_iff {limit : Option Nat} {passed : Unit} :
    (checkLimit limit).result = .ok passed ↔ limit ≠ some 0 := by
  unfold checkLimit
  split <;> simp [*]

theorem one_le_limit {limit configured : Option Nat} (hlimit : limit ≠ some 0)
    (hconfigured : ∀ n ∈ configured, 1 ≤ n) : ∀ n ∈ limit <|> configured, 1 ≤ n := by
  cases limit with
  | none => exact hconfigured
  | some n =>
    rintro _ ⟨⟩
    exact Nat.one_le_iff_ne_zero.2 fun hzero => hlimit (congrArg some hzero)

theorem result_search_eq_ok_iff {query : String} {limit : Option Nat} {found : Answer}
    (htask : invocation.task = .search query limit) :
    (answer world invocation).result = .ok found ↔ ∃ config predicate path catalog,
      Config.load world.environment world.files invocation.config = .ok config ∧
      limit ≠ some 0 ∧ config.compiler.compile query = .ok predicate ∧
      CatalogPath.resolve world.environment invocation.catalog config.catalog = .ok path ∧
      Catalog.ofContent world.fresh (world.files.content path) = .ok catalog ∧
      .tracks (catalog.search predicate (limit <|> config.limit)) = found := by
  simp only [answer, htask, perform, Logged.result_bind_eq_ok_iff, Logged.result_ofExcept_eq_ok_iff,
    result_noteConfig, result_checkLimit_eq_ok_iff, result_compile, result_openCatalog_eq_ok_iff,
    Logged.result_pure, Except.ok.injEq, exists_const]
  constructor
  · rintro ⟨config, hconfig, -, hlimit, predicate, hpredicate, catalog, ⟨path, hpath, hopened⟩, hfound⟩
    exact ⟨config, predicate, path, catalog, hconfig, hlimit, hpredicate, hpath, hopened, hfound⟩
  · rintro ⟨config, predicate, path, catalog, hconfig, hlimit, hpredicate, hpath, hopened, hfound⟩
    exact ⟨config, hconfig, trivial, hlimit, predicate, hpredicate, catalog, ⟨path, hpath, hopened⟩, hfound⟩

/-- A search that succeeds lists the first of the tracks that match its query, in catalog order, as many as
the limit that was given, or else the configured one, lets through. No such limit is zero. Both forms of the
listing show these tracks, and one that shows none says that none match. -/
theorem search_lists_first_matches {words : List String} {query : String} {limit : Option Nat}
    (haccepted : Invocation.ofWords words = .ok invocation)
    (htask : invocation.task = .search query limit) (hexit : (runWords world words).exitCode = 0) :
    ∃ config predicate path catalog listed,
      Config.load world.environment world.files invocation.config = .ok config ∧
      config.compiler.compile query = .ok predicate ∧
      CatalogPath.resolve world.environment invocation.catalog config.catalog = .ok path ∧
      Catalog.ofContent world.fresh (world.files.content path) = .ok catalog ∧
      let matching := catalog.tracks.filter fun t => predicate.holds t.record
      (∀ n ∈ limit <|> config.limit, 1 ≤ n) ∧
      IsStart (limit <|> config.limit) listed matching ∧
      (∀ words', Invocation.ofWords words' = .ok { invocation with json := false } →
        (runWords world words').stdout =
          Answer.unlines (if listed.isEmpty then ["no tracks"] else listed.map Answer.trackLine) ∧
        (∀ t ∈ listed, TrackId.ofSpelling? ((Answer.trackLine t).toList.take 36) = some t.id) ∧
        ((runWords world words').stdout = "no tracks\n" ↔ matching = [])) ∧
      (∀ words', Invocation.ofWords words' = .ok { invocation with json := true } →
        (runWords world words').stdout = (Json.array (listed.map Answer.entryJson)).pretty ++ "\n" ∧
        (∀ fresh, ((Json.read? (runWords world words').stdout).bind Json.array?).bind
          (Catalog.tracksOfJson? fresh) = some listed) ∧
        ((runWords world words').stdout = "[]\n" ↔ matching = [])) := by
  rw [runWords_of_ofWords haccepted] at hexit
  obtain ⟨found, hfound⟩ := exitCode_run_eq_zero_iff.1 hexit
  obtain ⟨config, predicate, path, catalog, hconfig, hlimit, hpredicate, hpath, hcatalog, rfl⟩ :=
    (result_search_eq_ok_iff htask).1 hfound
  have hpositive := one_le_limit hlimit (Config.inRange_of_load hconfig).limit
  have hstart := catalog.search_isStart predicate (limit <|> config.limit)
  have hempty := hstart.eq_nil_iff hpositive
  have hout : ∀ json words', Invocation.ofWords words' = .ok { invocation with json } →
      (runWords world words').stdout =
        (Answer.tracks (catalog.search predicate (limit <|> config.limit))).render json := by
    intro json words' h
    rw [runWords_of_ofWords h]
    exact (run_of_ok ((answer_eq json).symm ▸ hfound)).2
  refine ⟨config, predicate, path, catalog, _, hconfig, hpredicate, hpath, hcatalog, hpositive, hstart,
    fun words' h => ?_, fun words' h => ?_⟩
  · rw [hout false words' h]
    exact ⟨render_text _, fun t _ => ofSpelling?_trackLine t, render_text_eq_iff.trans hempty⟩
  · rw [hout true words' h]
    exact ⟨render_json _, read?_render_json _, render_json_eq_iff.trans hempty⟩

theorem search_lists_first_matches_configured_limit :
    let world : World := ⟨⟨some "home", some "xdg", none, none⟩, ⟨fun path =>
      if path = ⟨"c.json"⟩ then .text "\x7b\"tracks\":[\x7b\"title\":\"Day\"\x7d,\x7b\"title\":\"Eve\"\x7d]\x7d"
      else .text "output.limit = 1"⟩, fun index => ⟨.ofNat 128 index⟩⟩
    let words := ["--catalog", "c.json", "search"]
    let day : Track := ⟨⟨0⟩, "Day", none, none, none, false, []⟩
    Invocation.ofWords words = .ok ⟨some ⟨"c.json"⟩, none, false, false, .search "" none⟩ ∧
      (runWords world words).exitCode = 0 ∧
      (runWords world words).stdout = Answer.unlines [Answer.trackLine day] ∧
      ∀ fresh, ((Json.read? (runWords world ("--json" :: words)).stdout).bind Json.array?).bind
        (Catalog.tracksOfJson? fresh) = some [day] := by
  intro world words day
  let eve : Track := ⟨⟨1⟩, "Eve", none, none, none, false, []⟩
  have haccepted : Invocation.ofWords words =
    .ok ⟨some ⟨"c.json"⟩, none, false, false, .search "" none⟩ := rfl
  have hconfig : Config.load world.environment world.files none = .ok ⟨none, 64, some 1⟩ := by
    decide +kernel
  have hquery : (⟨some 64⟩ : Query.Compiler).compile "" = .ok .always := by
    have htokens : (⟨some 64⟩ : Query.Compiler).tokenize "" = .ok [] := rfl
    rw [Query.Compiler.compile, htokens]
    exact congrArg Query.Parse.result (Query.parseFrom_end rfl)
  have hopened : Catalog.ofContent world.fresh (world.files.content ⟨"c.json"⟩) = .ok ⟨[day, eve]⟩ := by
    decide +kernel
  have hexit : (runWords world words).exitCode = 0 := by
    rw [runWords_of_ofWords haccepted]
    exact exitCode_run_eq_zero_iff.2 ⟨_, (result_search_eq_ok_iff rfl).2
      ⟨_, _, _, _, hconfig, by decide, hquery, rfl, hopened, rfl⟩⟩
  obtain ⟨config, predicate, path, catalog, listed, hloaded, hcompiled, hpath, hfound, -, hstart, htext,
    hjson⟩ := search_lists_first_matches haccepted rfl hexit
  obtain rfl := Except.ok.inj (hloaded.symm.trans hconfig)
  obtain rfl := Except.ok.inj (hcompiled.symm.trans hquery)
  obtain rfl : path = ⟨"c.json"⟩ := (Except.ok.inj hpath).symm
  obtain rfl := Except.ok.inj (hfound.symm.trans hopened)
  have hlisted : listed = [day] := by
    rw [List.prefix_iff_eq_take.1 hstart.initial, hstart.length 1 rfl]
    rfl
  subst hlisted
  exact ⟨haccepted, hexit, (htext words haccepted).1, (hjson ("--json" :: words) rfl).2.1⟩

end Command

end TrackSearch
