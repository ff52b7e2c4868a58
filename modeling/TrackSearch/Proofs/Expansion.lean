import TrackSearch.Proofs.NestingLimit

/-! The texts that are scanned when groups are opened, and groups in them, to any depth. Once the scan of
the query has gone through, opening a group can only fail on an open quote. -/

namespace TrackSearch.Query

/-- `contents` stand in `level` groups of the query: each group is a token of the text around it. -/
inductive Expands (limit : Option Nat) (query : List Char) : Nat → List Char → Prop
  | query : Expands limit query 0 query
  | group {level : Nat} {text contents : List Char} {tokens : List Token} {token : Token} :
      Expands limit query level text → tokenize limit text = .ok tokens → token ∈ tokens →
      token.contents? = some contents → Expands limit query (level + 1) contents

namespace Expands

variable {limit : Option Nat} {query contents : List Char} {level : Nat}

theorem peak_add_level_le (h : Expands limit query level contents) :
    Scan.start.peak contents + level ≤ Scan.start.peak query := by
  induction h with
  | query => exact Nat.le_refl _
  | group _ htokens htoken hcontents ih =>
    have hpeak := (nests_of_tokenize htokens htoken _ hcontents).1
    omega

theorem length_le (h : Expands limit query level contents) :
    contents.length + 2 * level ≤ query.length := by
  induction h with
  | query => exact Nat.le_refl _
  | group _ htokens htoken hcontents ih =>
    have hlength := Token.length_contents? hcontents
    have htotal := tokenize_length htokens
    have hshorter := length_le_totalLength htoken
    omega

theorem tokenize_error (h : Expands limit query (level + 1) contents) {e : SyntaxError}
    (he : tokenize none contents = .error e) : e = .unclosedQuote := by
  cases h with
  | group _ htokens htoken hcontents => exact (nests_of_tokenize htokens htoken _ hcontents).2 e he

theorem tokenize_limited {m : Nat} (h : Expands limit query level contents)
    (hpeak : Scan.start.peak query ≤ m + level) :
    tokenize (some m) contents = tokenize none contents := by
  apply tokenize_of_peak_le
  have := h.peak_add_level_le
  omega

end Expands

theorem Expands.inner {limit : Option Nat} {query text : List Char} {level : Nat}
    {tokens : List Token} (htext : Expands limit query level text)
    (htokens : tokenize limit text = .ok tokens) :
    ∀ t ∈ tokens, ∀ contents, t.contents? = some contents →
      ∃ level, Expands limit query (level + 1) contents :=
  fun _ ht _ hcontents => ⟨level, htext.group htokens ht hcontents⟩

theorem expands_of_expanding {limit : Option Nat} {query : List Char} {before : Predicate}
    {queue : List Token} {contents : String}
    (hqueue : ∀ t ∈ queue, ∀ inside, t.contents? = some inside →
      ∃ level, Expands limit query (level + 1) inside)
    (h : .expanding contents ∈ (parseFrom limit before queue).events) :
    ∃ level, Expands limit query (level + 1) contents.toList := by
  induction before, queue using parseFrom.induct limit with
  | case1 before queue hitem =>
    rw [parseFrom_end hitem] at h
    simp at h
  | case2 before queue item rest hitem hcontents hvalue ih =>
    rw [parseFrom_dropped hitem hcontents hvalue] at h
    refine ih (nextItem?_forall hitem hqueue).2 ?_
    simpa using h
  | case3 before queue item rest hitem hcontents clause hvalue ih =>
    rw [parseFrom_criterion hitem hcontents hvalue] at h
    exact ih (nextItem?_forall hitem hqueue).2 h
  | case4 before queue item rest hitem inside hcontents e hscan =>
    rw [parseFrom_unscanned hitem hcontents hscan] at h
    obtain rfl : contents = String.ofList inside := by simpa using h
    simpa using (nextItem?_forall hitem hqueue).1 inside hcontents
  | case5 before queue item rest hitem inside hcontents tokens hscan inner e hinner ih =>
    have hgroup := (nextItem?_forall hitem hqueue).1 inside hcontents
    rw [parseFrom_failed hitem hcontents hscan hinner] at h
    rcases List.mem_cons.1 h with hhere | hinside
    · obtain rfl : contents = String.ofList inside := by simpa using hhere
      simpa using hgroup
    · obtain ⟨level, hlevel⟩ := hgroup
      exact ih (hlevel.inner hscan) hinside
  | case6 before queue item rest hitem inside hcontents tokens hscan inner clause hinner ihinner ih =>
    have hgroup := (nextItem?_forall hitem hqueue).1 inside hcontents
    rw [parseFrom_group hitem hcontents hscan hinner] at h
    rcases List.mem_cons.1 h with hhere | hlater
    · obtain rfl : contents = String.ofList inside := by simpa using hhere
      simpa using hgroup
    · -- The events of a group stand between its own and those of the items behind it.
      rcases List.mem_append.1 hlater with hinside | hbehind
      · obtain ⟨level, hlevel⟩ := hgroup
        exact ihinner (hlevel.inner hscan) hinside
      · exact ih (nextItem?_forall hitem hqueue).2 hbehind

theorem compile_error_of_tokenize {limit : Option Nat} {query : String} {tokens : List Token}
    {e : SyntaxError} (h : tokenize limit query.toList = .ok tokens)
    (he : (Compiler.mk limit).compile query = .error e) : e = .unclosedQuote := by
  rw [Compiler.compile_of_ok ⟨limit⟩ h] at he
  exact parse_error_of_tokenize h he

theorem compile_error_iff {limit : Option Nat} {query : String} {e : SyntaxError}
    (hquote : e ≠ .unclosedQuote) :
    (Compiler.mk limit).compile query = .error e ↔ tokenize limit query.toList = .error e := by
  refine ⟨fun he => ?_, fun h => Compiler.compile_of_error ⟨limit⟩ h⟩
  cases h : tokenize limit query.toList with
  | error e' =>
    rw [Compiler.compile_of_error ⟨limit⟩ h, Except.error.injEq] at he
    rw [he]
  | ok tokens => exact absurd (compile_error_of_tokenize h he) hquote

/-- Once a query is scanned, at every level of its groups the contents can only have an open quote wrong
with them. A limit is never noticed again, not even when each level takes one from it; in particular it
bounds the levels, and the tokens parse alike without it. So brackets are found wrong by the scan of the
query or not at all. -/
theorem expansion_fails_only_on_quotes (limit : Option Nat) (query : String) :
    (∀ tokens, tokenize limit query.toList = .ok tokens →
      (∀ level contents, Expands limit query.toList (level + 1) contents →
        (∀ e, tokenize limit contents = .error e → e = .unclosedQuote) ∧
          ∀ n ∈ limit, level + 1 ≤ n ∧ ∀ m, n ≤ m + (level + 1) →
            ∀ e, tokenize (some m) contents = .error e → e = .unclosedQuote) ∧
        (∀ contents, .expanding contents ∈ (parse limit tokens).events →
          ∃ level, Expands limit query.toList (level + 1) contents.toList) ∧
        (∀ e, (Compiler.mk limit).compile query = .error e → e = .unclosedQuote) ∧
        parse none tokens = parse limit tokens ∧
        (Compiler.mk limit).compile query = (parse none tokens).result) ∧
      ((Compiler.mk limit).compile query = .error .unclosedBracket ↔
        tokenize limit query.toList = .error .unclosedBracket) ∧
      ∀ n, (Compiler.mk limit).compile query = .error (.tooDeep n) ↔
        tokenize limit query.toList = .error (.tooDeep n) := by
  refine ⟨fun tokens htokens => ?_, compile_error_iff (by simp), fun n => compile_error_iff (by simp)⟩
  refine ⟨fun level contents h => ?_, fun contents h => ?_, fun e he => ?_, ?_, ?_⟩
  · have hlimited : ∀ n ∈ limit, ∀ m, n ≤ m + (level + 1) →
        tokenize (some m) contents = tokenize none contents := by
      rintro n rfl m hm
      exact h.tokenize_limited (Nat.le_trans (peak_le_of_tokenize htokens) hm)
    refine ⟨fun e he => h.tokenize_error ?_, fun n hn => ⟨?_, fun m hm e he => h.tokenize_error ?_⟩⟩
    · cases limit with
      | none => exact he
      | some n => rw [← hlimited n rfl n (Nat.le_add_right ..), he]
    · subst hn
      have hpeak := peak_le_of_tokenize htokens
      have hlevel := h.peak_add_level_le
      omega
    · rw [← hlimited n hn m hm, he]
  · exact expands_of_expanding (Expands.query.inner htokens) h
  · exact compile_error_of_tokenize htokens he
  · exact (parse_of_tokenize htokens).symm
  · exact Compiler.compile_of_ok ⟨limit⟩ htokens

end TrackSearch.Query
