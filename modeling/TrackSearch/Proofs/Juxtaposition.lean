import TrackSearch.Catalog
import TrackSearch.Proofs.RoundTrip
import TrackSearch.Proofs.SeparatedText
import TrackSearch.Query.Items

/-! Queries put behind one another. A query and a group behind a relation compile to what the two compile
to, joined; and brackets around the start of a query change nothing, since a query combines from the left
anyway. -/

namespace TrackSearch.Query

theorem result_parseFrom_append {limit : Option Nat} {before p : Predicate} {queue : List Token}
    (h : (parseFrom limit before queue).result = .ok p) (hend : endsInRelation queue = false)
    (more : List Token) :
    (parseFrom limit before (queue ++ more)).result = (parseFrom limit p more).result := by
  induction queue using queue_induction generalizing before with
  | done queue hitem =>
    rw [parseFrom_end hitem] at h
    obtain rfl := Except.ok.inj h
    rw [eq_nil_of_nextItem?_eq_none hitem hend, List.nil_append]
  | next queue item rest hitem ih =>
    have hrest : endsInRelation rest = false := (endsInRelation_of_some hitem).symm.trans hend
    rw [result_parseFrom hitem] at h
    rw [result_parseFrom (nextItem?_append hitem more)]
    cases hclause : item.token.clause? limit with
    | error e =>
      rw [hclause] at h
      contradiction
    | ok clause =>
      rw [hclause] at h
      cases clause with
      | none => exact ih h hrest
      | some clause => exact ih h hrest

theorem compile_of_append_blank {query : String} {first rest : List Char} {tokens : List Token} {c : Char}
    (hquery : query.toList = first ++ c :: rest) (htokens : tokenize none first = .ok tokens)
    (hend : endsInBackslash false first = false) (hblank : Text.isBlank c = true) :
    Compiler.unbounded.compile query =
      match tokenize none rest with
      | .error e => .error e
      | .ok more => (parse none (tokens ++ more)).result := by
  have hscan : Compiler.unbounded.tokenize query = (tokenize none rest).map (tokens ++ ·) := by
    rw [Compiler.tokenize, hquery]
    exact tokenize_append_blank htokens hend hblank
  cases hrest : tokenize none rest with
  | error e =>
    rw [hrest] at hscan
    exact Compiler.compile_of_error _ hscan
  | ok more =>
    rw [hrest] at hscan
    exact Compiler.compile_of_ok _ hscan

section Groups

variable {query : String} {p : Predicate}

theorem clause?_groupToken_of_compile (h : Compiler.unbounded.compile query = .ok p) :
    (groupToken query.toList).clause? none = .ok (some p) := by
  obtain ⟨tokens, htokens, hparse⟩ := Compiler.tokens_of_compile h
  have hscan : tokenize none query.toList = .ok tokens := htokens
  rw [Token.clause?_group (contents?_groupToken _) hscan, hparse, Except.map]

theorem result_parse_groupToken (h : Compiler.unbounded.compile query = .ok p) (more : List Token) :
    (parse none (groupToken query.toList :: more)).result = (parseFrom none p more).result := by
  have hrelation : (groupToken query.toList).relation? = none :=
    relation?_eq_none rfl (by decide) (by decide)
  have hitem : nextItem? (groupToken query.toList :: more) =
      some (⟨none, groupToken query.toList⟩, more) := by simp only [nextItem?, hrelation]
  rw [parse, result_parseFrom hitem, clause?_groupToken_of_compile h]
  rfl

theorem readsAs_group_of_balanced (h : Balanced query.toList) :
    ReadsAs none (grouped query.toList) [groupToken query.toList] :=
  readsAs_grouped (nested_of_balanced h) (by simp)

theorem endsInBackslash_grouped (h : Balanced query.toList) :
    endsInBackslash false (grouped query.toList) = false := by
  have hinside : endsInBackslash false query.toList = false := endsInBackslash_of_openAfter? h
  have hopened : endsInBackslash false (grouped query.toList) =
      endsInBackslash false (query.toList ++ [')']) := rfl
  rw [hopened, endsInBackslash_append, hinside]
  rfl

end Groups

theorem compile_joined_group {first second query : String} {p q : Predicate} {tokens : List Token}
    {relation : Relation} (word : List Char) (hp : Compiler.unbounded.compile first = .ok p)
    (hq : Compiler.unbounded.compile second = .ok q)
    (htokens : Compiler.unbounded.tokenize first = .ok tokens)
    (hend : endsInBackslash false first.toList = false) (hrelation : endsInRelation tokens = false)
    (hbalanced : Balanced second.toList) (hne : word ≠ []) (hplain : Plain word)
    (hword : (⟨.word, String.ofList word⟩ : Token).relation? = some relation)
    (hquery : query.toList = first.toList ++ ' ' :: (word ++ ' ' :: grouped second.toList)) :
    Compiler.unbounded.compile query = .ok (join p (some relation) q) := by
  have hresult : (parse none tokens).result = .ok p :=
    (Compiler.compile_of_ok _ htokens).symm.trans hp
  have hbehind : tokenize none (word ++ ' ' :: grouped second.toList) =
      .ok [⟨.word, String.ofList word⟩, groupToken second.toList] :=
    ((readsAs_word hne hplain).append (readsAs_group_of_balanced hbalanced)).tokenize
  have hitem : nextItem? [⟨.word, String.ofList word⟩, groupToken second.toList] =
      some (⟨some relation, groupToken second.toList⟩, []) := by simp only [nextItem?, hword]
  rw [compile_of_append_blank hquery htokens hend rfl, hbehind]
  dsimp only
  rw [parse, result_parseFrom_append hresult hrelation, result_parseFrom hitem,
    clause?_groupToken_of_compile hq]
  exact congrArg Parse.result (parseFrom_end rfl)

namespace Predicate

def FindsBoth (both p q : Predicate) : Prop :=
  (∀ r, both.holds r = (p.holds r && q.holds r)) ∧
    ∀ catalog : Catalog, catalog.search both none =
      catalog.tracks.filter fun t => t ∈ catalog.search p none ∧ t ∈ catalog.search q none

def FindsEither (either p q : Predicate) : Prop :=
  (∀ r, either.holds r = (p.holds r || q.holds r)) ∧
    ∀ catalog : Catalog, catalog.search either none =
      catalog.tracks.filter fun t => t ∈ catalog.search p none ∨ t ∈ catalog.search q none

end Predicate

section Searching

variable {p q : Predicate}

theorem mem_search_iff {catalog : Catalog} {t : Track} (h : t ∈ catalog.tracks) :
    t ∈ catalog.search p none ↔ p.holds t.record = true := by
  simp [Catalog.search, h]

theorem search_of_holds {op : Bool → Bool → Bool} {found : Predicate}
    (h : ∀ r, found.holds r = op (p.holds r) (q.holds r)) (catalog : Catalog) :
    catalog.search found none =
      catalog.tracks.filter fun t => op (t ∈ catalog.search p none) (t ∈ catalog.search q none) := by
  rw [Catalog.search]
  refine List.filter_congr fun t ht => ?_
  have hp : decide (t ∈ catalog.search p none) = p.holds t.record := by simp [mem_search_iff ht]
  have hq : decide (t ∈ catalog.search q none) = q.holds t.record := by simp [mem_search_iff ht]
  rw [h, hp, hq]

theorem findsBoth_of_holds {both : Predicate} (h : ∀ r, both.holds r = (p.holds r && q.holds r)) :
    both.FindsBoth p q := by
  refine ⟨h, fun catalog => ?_⟩
  simp only [search_of_holds h, Bool.decide_and]

theorem findsEither_of_holds {either : Predicate}
    (h : ∀ r, either.holds r = (p.holds r || q.holds r)) : either.FindsEither p q := by
  refine ⟨h, fun catalog => ?_⟩
  simp only [search_of_holds h, Bool.decide_or]

theorem findsBoth_join (p q : Predicate) : (join p (some .and) q).FindsBoth p q := by
  refine findsBoth_of_holds fun r => ?_
  cases halways : p.isAlways with
  | true =>
    obtain rfl := Predicate.isAlways_iff.1 halways
    simp [join, Predicate.isAlways, Predicate.holds]
  | false => simp [join, halways, Predicate.holds]

theorem findsEither_join (h : p ≠ .always) (q : Predicate) :
    (join p (some .or) q).FindsEither p q := by
  have halways : p.isAlways = false :=
    Bool.eq_false_iff.2 fun htrue => h (Predicate.isAlways_iff.1 htrue)
  refine findsEither_of_holds fun r => ?_
  simp [join, halways, Predicate.holds]

end Searching

/-- A query with a second one in brackets behind it finds what both find, or what either finds. Where the
first always holds there is nothing to join, and the second stands alone. -/
theorem joined_queries_compose {first second : String} {p q : Predicate} {tokens : List Token}
    (hp : Compiler.unbounded.compile first = .ok p) (hq : Compiler.unbounded.compile second = .ok q)
    (htokens : Compiler.unbounded.tokenize first = .ok tokens)
    (hend : endsInBackslash false first.toList = false) (hrelation : endsInRelation tokens = false)
    (hbalanced : Balanced second.toList) :
    (∃ both, Compiler.unbounded.compile (first ++ " AND (" ++ second ++ ")") = .ok both ∧
        both.FindsBoth p q) ∧
      ∃ either, Compiler.unbounded.compile (first ++ " OR (" ++ second ++ ")") = .ok either ∧
        (p = .always → either = q) ∧ (p ≠ .always → either.FindsEither p q) := by
  constructor
  · have htext : (first ++ " AND (" ++ second ++ ")").toList =
        first.toList ++ ' ' :: ("AND".toList ++ ' ' :: grouped second.toList) := by
      simp [grouped, Text.enclose]
    have hcompile := compile_joined_group "AND".toList hp hq htokens hend hrelation hbalanced
      (by decide) (by decide) rfl htext
    exact ⟨_, hcompile, findsBoth_join p q⟩
  · have htext : (first ++ " OR (" ++ second ++ ")").toList =
        first.toList ++ ' ' :: ("OR".toList ++ ' ' :: grouped second.toList) := by
      simp [grouped, Text.enclose]
    have hcompile := compile_joined_group "OR".toList hp hq htokens hend hrelation hbalanced
      (by decide) (by decide) rfl htext
    refine ⟨_, hcompile, ?_, fun hne => findsEither_join hne q⟩
    rintro rfl
    rfl

theorem joined_queries_compose_quoted_bracket :
    Compiler.unbounded.compile "t:\"(\"" = .ok (.titleContains "(") ∧
      Compiler.unbounded.compile "-b OR ()" = .ok (.or (.tagExcluded "b") .always) ∧
      (∃ both, Compiler.unbounded.compile ("t:\"(\"" ++ " AND (" ++ "-b OR ()" ++ ")") = .ok both ∧
        both.FindsBoth (.titleContains "(") (.or (.tagExcluded "b") .always)) ∧
      ∃ either, Compiler.unbounded.compile ("t:\"(\"" ++ " OR (" ++ "-b OR ()" ++ ")") = .ok either ∧
        (Predicate.titleContains "(" = .always → either = .or (.tagExcluded "b") .always) ∧
        (Predicate.titleContains "(" ≠ .always →
          either.FindsEither (.titleContains "(") (.or (.tagExcluded "b") .always)) := by
  have hfirst : Compiler.unbounded.tokenize "t:\"(\"" = .ok [⟨.quoted, "t:\"(\""⟩] := rfl
  have hsecond : Compiler.unbounded.tokenize "-b OR ()" =
      .ok [⟨.word, "-b"⟩, ⟨.word, "OR"⟩, ⟨.group, "()"⟩] := rfl
  have hnothing : (parse none []).result = .ok .always := by rw [parse, parseFrom_end rfl]
  have hp : Compiler.unbounded.compile "t:\"(\"" = .ok (.titleContains "(") := by
    rw [Compiler.compile_of_ok _ hfirst, parse, parseFrom_criterion rfl rfl rfl, parseFrom_end rfl]
    rfl
  have hq : Compiler.unbounded.compile "-b OR ()" = .ok (.or (.tagExcluded "b") .always) := by
    rw [Compiler.compile_of_ok _ hsecond, parse, parseFrom_criterion rfl rfl rfl,
      parseFrom_group rfl rfl rfl hnothing, parseFrom_end rfl]
    rfl
  exact ⟨hp, hq, joined_queries_compose hp hq hfirst (by decide) (by decide) (by decide)⟩

/-- Brackets around the start of a query change nothing, whatever stands behind them. -/
theorem leading_group_opens {first blanks rest : String} {p : Predicate} {tokens : List Token}
    (hp : Compiler.unbounded.compile first = .ok p) (hbalanced : Balanced first.toList)
    (htokens : Compiler.unbounded.tokenize first = .ok tokens) (hrelation : endsInRelation tokens = false)
    (hne : blanks ≠ "") (hblanks : Text.allBlank blanks.toList = true) :
    Compiler.unbounded.compile ("(" ++ first ++ ")" ++ blanks ++ rest) =
      Compiler.unbounded.compile (first ++ blanks ++ rest) := by
  obtain ⟨c, cs, hcs⟩ : ∃ c cs, blanks.toList = c :: cs := by
    refine List.exists_cons_of_ne_nil fun hnil => hne ?_
    exact String.toList_injective hnil
  have hblank : Text.isBlank c = true := by
    rw [hcs, Text.allBlank, List.all_cons, Bool.and_eq_true] at hblanks
    exact hblanks.1
  have hopened : ("(" ++ first ++ ")" ++ blanks ++ rest).toList =
      grouped first.toList ++ c :: (cs ++ rest.toList) := by simp [grouped, Text.enclose, hcs]
  have hplain : (first ++ blanks ++ rest).toList = first.toList ++ c :: (cs ++ rest.toList) := by
    simp [hcs]
  have hresult : (parse none tokens).result = .ok p :=
    (Compiler.compile_of_ok _ htokens).symm.trans hp
  have hgroup : tokenize none (grouped first.toList) = .ok [groupToken first.toList] :=
    (readsAs_group_of_balanced hbalanced).tokenize
  rw [compile_of_append_blank hopened hgroup (endsInBackslash_grouped hbalanced) hblank,
    compile_of_append_blank hplain htokens (endsInBackslash_of_openAfter? hbalanced) hblank]
  -- The rest is scanned alike in both, and both parse it from the predicate of `first` on.
  cases tokenize none (cs ++ rest.toList) with
  | error e => rfl
  | ok more =>
    have hleading := result_parse_groupToken hp more
    have hflat : (parse none (tokens ++ more)).result = (parseFrom none p more).result :=
      result_parseFrom_append hresult hrelation more
    exact hleading.trans hflat.symm

theorem leading_group_opens_before_fault :
    Compiler.unbounded.compile "t:a OR -b" = .ok (.or (.titleContains "a") (.tagExcluded "b")) ∧
      Balanced "t:a OR -b".toList ∧
      Compiler.unbounded.compile ("(" ++ "t:a OR -b" ++ ")" ++ "\t " ++ "OR (\"c)") =
        Compiler.unbounded.compile ("t:a OR -b" ++ "\t " ++ "OR (\"c)") := by
  have htokens : Compiler.unbounded.tokenize "t:a OR -b" =
      .ok [⟨.word, "t:a"⟩, ⟨.word, "OR"⟩, ⟨.word, "-b"⟩] := rfl
  have hp : Compiler.unbounded.compile "t:a OR -b" =
      .ok (.or (.titleContains "a") (.tagExcluded "b")) := by
    rw [Compiler.compile_of_ok _ htokens, parse, parseFrom_criterion rfl rfl rfl,
      parseFrom_criterion rfl rfl rfl, parseFrom_end rfl]
    rfl
  exact ⟨hp, by decide, leading_group_opens hp (by decide) htokens (by decide) (by decide) (by decide)⟩

end TrackSearch.Query
