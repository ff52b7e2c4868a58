import TrackSearch.Proofs.GroupContents
import TrackSearch.Proofs.ParseStep

/-! The limit on nesting is a threshold. The scan of a query decides alone whether the limit is passed:
once it has gone through, no group nests deep enough for the limit to be noticed again. -/

namespace TrackSearch.Query

theorem Token.Nests.tokenize {n : Nat} {t : Token} {contents : List Char} (h : t.Nests (n + 1))
    (hcontents : t.contents? = some contents) :
    tokenize (some n) contents = Query.tokenize none contents :=
  tokenize_of_peak_le (Nat.le_of_lt_succ (h contents hcontents).1)

theorem Token.Nests.inner {depth : Nat} {limit : Option Nat} {t : Token} {contents : List Char}
    {tokens : List Token} (h : t.Nests depth) (hcontents : t.contents? = some contents)
    (htokens : Query.tokenize limit contents = .ok tokens) : ∀ token ∈ tokens, token.Nests depth :=
  fun _ htoken => (nests_of_tokenize htokens htoken).mono (Nat.le_of_lt (h contents hcontents).1)

theorem parseFrom_limited {n : Nat} {before : Predicate} {queue : List Token}
    (h : ∀ t ∈ queue, t.Nests (n + 1)) :
    parseFrom (some n) before queue = parseFrom none before queue := by
  -- Along the parse without a limit, since that is where the scans of the groups are known to go.
  induction before, queue using parseFrom.induct none with
  | case1 before queue hitem => rw [parseFrom_end hitem, parseFrom_end hitem]
  | case2 before queue item rest hitem hcontents hvalue ih =>
    have hrest := ih (nextItem?_forall hitem h).2
    rw [parseFrom_dropped hitem hcontents hvalue, parseFrom_dropped hitem hcontents hvalue, hrest]
  | case3 before queue item rest hitem hcontents clause hvalue ih =>
    have hrest := ih (nextItem?_forall hitem h).2
    rw [parseFrom_criterion hitem hcontents hvalue, parseFrom_criterion hitem hcontents hvalue, hrest]
  | case4 before queue item rest hitem contents hcontents e htokens =>
    have hlimited := (nextItem?_forall hitem h).1.tokenize hcontents
    rw [parseFrom_unscanned hitem hcontents (hlimited.trans htokens),
      parseFrom_unscanned hitem hcontents htokens]
  | case5 before queue item rest hitem contents hcontents tokens htokens inner e hinner ih =>
    have hgroup := (nextItem?_forall hitem h).1
    have hlimited := (hgroup.tokenize hcontents).trans htokens
    have hparse : parse (some n) tokens = parse none tokens := ih (hgroup.inner hcontents htokens)
    have hfailed := (congrArg Parse.result hparse).trans hinner
    rw [parseFrom_failed hitem hcontents htokens hinner,
      parseFrom_failed hitem hcontents hlimited hfailed, hparse]
  | case6 before queue item rest hitem contents hcontents tokens htokens inner clause hinner ihinner ih =>
    obtain ⟨hgroup, hqueue⟩ := nextItem?_forall hitem h
    have hlimited := (hgroup.tokenize hcontents).trans htokens
    have hparse : parse (some n) tokens = parse none tokens := ihinner (hgroup.inner hcontents htokens)
    have hclause := (congrArg Parse.result hparse).trans hinner
    rw [parseFrom_group hitem hcontents htokens hinner,
      parseFrom_group hitem hcontents hlimited hclause, hparse, ih hqueue]

theorem parseFrom_error {depth : Nat} {before : Predicate} {queue : List Token} {e : SyntaxError}
    (h : ∀ t ∈ queue, t.Nests depth) (he : (parseFrom none before queue).result = .error e) :
    e = .unclosedQuote := by
  induction before, queue using parseFrom.induct none with
  | case1 before queue hitem =>
    rw [parseFrom_end hitem] at he
    simp at he
  | case2 before queue item rest hitem hcontents hvalue ih =>
    rw [parseFrom_dropped hitem hcontents hvalue] at he
    exact ih (nextItem?_forall hitem h).2 he
  | case3 before queue item rest hitem hcontents clause hvalue ih =>
    rw [parseFrom_criterion hitem hcontents hvalue] at he
    exact ih (nextItem?_forall hitem h).2 he
  | case4 before queue item rest hitem contents hcontents e' htokens =>
    rw [parseFrom_unscanned hitem hcontents htokens, Except.error.injEq] at he
    exact he ▸ ((nextItem?_forall hitem h).1 contents hcontents).2 e' htokens
  | case5 before queue item rest hitem contents hcontents tokens htokens inner e' hinner ih =>
    have hgroup := (nextItem?_forall hitem h).1
    rw [parseFrom_failed hitem hcontents htokens hinner, Except.error.injEq] at he
    exact ih (hgroup.inner hcontents htokens) (he ▸ hinner)
  | case6 before queue item rest hitem contents hcontents tokens htokens inner clause hinner _ ih =>
    rw [parseFrom_group hitem hcontents htokens hinner] at he
    exact ih (nextItem?_forall hitem h).2 he

theorem parse_error_of_tokenize {limit : Option Nat} {query : List Char} {tokens : List Token}
    {e : SyntaxError} (h : tokenize limit query = .ok tokens)
    (he : (parse none tokens).result = .error e) : e = .unclosedQuote :=
  parseFrom_error (fun _ ht => nests_of_tokenize h ht) he

theorem parse_of_tokenize {limit : Option Nat} {query : List Char} {tokens : List Token}
    (h : tokenize limit query = .ok tokens) : parse limit tokens = parse none tokens := by
  cases limit with
  | none => rfl
  | some n =>
    refine parseFrom_limited fun t ht => (nests_of_tokenize h ht).mono ?_
    exact Nat.le_succ_of_le (peak_le_of_tokenize h)

namespace Compiler

theorem compile_of_error (compiler : Compiler) {query : String} {e : SyntaxError}
    (h : compiler.tokenize query = .error e) : compiler.compile query = .error e := by
  rw [compile, h]

theorem compile_of_ok (compiler : Compiler) {query : String} {tokens : List Token}
    (h : compiler.tokenize query = .ok tokens) :
    compiler.compile query = (parse none tokens).result := by
  rw [compile, h]
  exact congrArg Parse.result (parse_of_tokenize h)

theorem tokens_of_compile {compiler : Compiler} {query : String} {p : Predicate}
    (h : compiler.compile query = .ok p) :
    ∃ tokens, compiler.tokenize query = .ok tokens ∧ (parse none tokens).result = .ok p := by
  cases htokens : compiler.tokenize query with
  | error e =>
    rw [compile_of_error _ htokens] at h
    contradiction
  | ok tokens =>
    rw [compile_of_ok _ htokens] at h
    exact ⟨tokens, rfl, h⟩

theorem tokenize_of_peakDepth_le {n : Nat} {query : String} (h : peakDepth query ≤ n) :
    (Compiler.mk (some n)).tokenize query = unbounded.tokenize query :=
  tokenize_of_peak_le h

theorem compile_of_peakDepth_le {n : Nat} {query : String} (h : peakDepth query ≤ n) :
    (Compiler.mk (some n)).compile query = unbounded.compile query := by
  have htokenize := tokenize_of_peakDepth_le h
  cases htokens : unbounded.tokenize query with
  | error e => rw [compile_of_error _ htokens, compile_of_error _ (htokenize.trans htokens)]
  | ok tokens => rw [compile_of_ok _ htokens, compile_of_ok _ (htokenize.trans htokens)]

theorem peakDepth_le_of_compile {n : Nat} {query : String} {p : Predicate}
    (h : (Compiler.mk (some n)).compile query = .ok p) : peakDepth query ≤ n := by
  refine Nat.not_lt.1 fun hdeep => ?_
  rw [compile_of_error _ (tokenize_of_lt_peak hdeep)] at h
  simp at h

theorem compile_unbounded {compiler : Compiler} {query : String} {p : Predicate}
    (h : compiler.compile query = .ok p) : unbounded.compile query = .ok p := by
  obtain ⟨_ | n⟩ := compiler
  · exact h
  · rw [← compile_of_peakDepth_le (peakDepth_le_of_compile h), h]

end Compiler

theorem unbounded_error {query : String} {e : SyntaxError}
    (h : Compiler.unbounded.compile query = .error e) : e = .unclosedQuote ∨ e = .unclosedBracket := by
  cases htokens : Compiler.unbounded.tokenize query with
  | error e' =>
    rw [Compiler.compile_of_error _ htokens, Except.error.injEq] at h
    obtain ⟨-, -, -, hquote | ⟨hbracket, -⟩⟩ := tokenize_none_error htokens
    · exact Or.inl (h ▸ hquote)
    · exact Or.inr (h ▸ hbracket)
  | ok tokens =>
    rw [Compiler.compile_of_ok _ htokens] at h
    exact Or.inl (parse_error_of_tokenize htokens h)

/-- The number of brackets that are open at once decides alone whether a limit stops a query. Below it
every limit does, whatever else is wrong with the query; from it on no limit changes anything, and the
only errors are those of a query without a limit. -/
theorem limit_is_threshold (query : String) (n : Nat) :
    (n < peakDepth query →
      tokenize (some n) query.toList = .error (.tooDeep n) ∧
        (Compiler.mk (some n)).compile query = .error (.tooDeep n)) ∧
      (peakDepth query ≤ n →
        tokenize (some n) query.toList = tokenize none query.toList ∧
          (Compiler.mk (some n)).compile query = Compiler.unbounded.compile query) ∧
      (∀ e, tokenize none query.toList = .error e ∨ Compiler.unbounded.compile query = .error e →
        e = .unclosedQuote ∨ e = .unclosedBracket) ∧
      ∀ m, n ≤ m →
        (∀ tokens, tokenize (some n) query.toList = .ok tokens →
          tokenize (some m) query.toList = .ok tokens) ∧
        ∀ p, (Compiler.mk (some n)).compile query = .ok p →
          (Compiler.mk (some m)).compile query = .ok p := by
  refine ⟨fun hdeep => ?_, fun hpeak => ?_, ?_, fun m hm => ⟨fun tokens h => ?_, fun p h => ?_⟩⟩
  · have htokens := tokenize_of_lt_peak hdeep
    exact ⟨htokens, Compiler.compile_of_error _ htokens⟩
  · exact ⟨tokenize_of_peak_le hpeak, Compiler.compile_of_peakDepth_le hpeak⟩
  · rintro e (h | h)
    · exact unbounded_error (Compiler.compile_of_error _ h)
    · exact unbounded_error h
  · rw [tokenize_of_peak_le (Nat.le_trans (peak_le_of_tokenize h) hm)]
    exact tokenize_none_of_tokenize h
  · rw [Compiler.compile_of_peakDepth_le (Nat.le_trans (Compiler.peakDepth_le_of_compile h) hm)]
    exact Compiler.compile_unbounded h

end TrackSearch.Query
