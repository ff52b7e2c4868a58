import Mathlib.Data.List.Basic
import TrackSearch.Proofs.Expansion
import TrackSearch.Proofs.KeptClauses
import TrackSearch.Proofs.RoundTrip
import TrackSearch.Proofs.TokenOrigin

/-! Which backslashes are left in the texts that a query looks for. A backslash outside brackets goes when its
token is read, and one in a group when the contents of the group are; those in brackets that do not start
their word are never read again. -/

namespace TrackSearch.Query

/-- A word of the text ends with brackets that do not start it and hold a backslash. -/
def KeepsBackslash (text word : List Char) : Prop :=
  ∃ before inside, Brackets text before inside ∧ openText before ≠ [] ∧ '\\' ∈ inside ∧
    word = openText before ++ grouped inside

section Text

variable {limit : Option Nat} {cs text contents word : List Char} {token : Token} {tokens : List Token}

theorem eq_concat_of_escaped (h : (Place.start.behind cs).escaped = true) :
    ∃ before, cs = before ++ ['\\'] := by
  cases cs using List.reverseRecOn with
  | nil => contradiction
  | append_singleton cs c =>
    rw [Place.behind_concat, Place.escaped_next, Bool.and_eq_true, beq_iff_eq] at h
    exact ⟨cs, by rw [h.2]⟩

theorem openText_concat_outside (cs : List Char) (c : Char)
    (hdepth : (Place.start.behind (cs ++ [c])).depth = 0) :
    openText (cs ++ [c]) = [] ∨ (Place.start.behind cs).depth = 0 ∧
      (openText (cs ++ [c]) = openText cs ∨ openText (cs ++ [c]) = openText cs ++ [c] ∧
        (c = '\\' → (Place.start.behind cs).escaped = true)) := by
  rw [Place.behind_concat] at hdepth
  obtain ⟨m, hm⟩ : ∃ m : Mark, m = ⟨c, Place.start.behind cs⟩ := ⟨_, rfl⟩
  rw [openText_concat cs c hm]
  by_cases hends : (m.isSeparator || m.isClosing) = true
  · exact Or.inl (if_pos hends)
  have houtside : (Place.start.behind cs).depth = 0 := by
    by_contra hinside
    exact hends (by rw [hm, Place.isClosing_of_next hinside hdepth, Bool.or_true])
  refine Or.inr ⟨houtside, ?_⟩
  rw [if_neg hends]
  cases hescape : m.isEscape with
  | true => exact Or.inl rfl
  | false =>
    refine Or.inr ⟨rfl, fun hslash => ?_⟩
    by_contra hfree
    simp [hm, Mark.isEscape, hslash, hfree, houtside] at hescape

theorem not_mem_openText (hpairs : ¬ ['\\', '\\'] <:+: cs)
    (hdepth : (Place.start.behind cs).depth = 0) :
    '\\' ∉ openText cs := by
  induction cs using List.reverseRecOn with
  | nil => exact List.not_mem_nil
  | append_singleton cs c ih =>
    rcases openText_concat_outside cs c hdepth with hempty | ⟨houtside, hsame | ⟨hmore, hescaped⟩⟩
    · rw [hempty]
      exact List.not_mem_nil
    all_goals
      have hopen := ih (fun h => hpairs (h.trans (List.prefix_append cs [c]).isInfix)) houtside
    · rw [hsame]
      exact hopen
    · have hc : '\\' ≠ c := by
        rintro rfl
        obtain ⟨before, rfl⟩ := eq_concat_of_escaped (hescaped rfl)
        exact hpairs ⟨before, [], by simp⟩
      simp [hmore, hopen, hc]

theorem keepsBackslash_of_mem (hpairs : ¬ ['\\', '\\'] <:+: text) (h : tokenize limit text = .ok tokens)
    (hmem : token ∈ tokens) (hcontents : token.contents? = none) (hslash : '\\' ∈ token.chars) :
    KeepsBackslash text token.chars := by
  cases standsIn_of_tokenize h hmem with
  | outside hkind hbefore hdepth hending =>
    have hopen := not_mem_openText (fun hpair => hpairs (hpair.trans hbefore.isInfix)) hdepth
    rw [Token.chars, String.toList_ofList] at hslash
    rcases hending with rfl | rfl <;> simp [hopen] at hslash
  | @bracketed before inside hbrackets =>
    obtain ⟨after, hafter⟩ := hbrackets.split
    have hopen : openText before ≠ [] := by
      intro hempty
      rw [contents?_bracketToken, if_pos hempty] at hcontents
      contradiction
    have hbefore : before <+: text := hafter ▸ List.prefix_append ..
    have hfront := not_mem_openText (fun hpair => hpairs (hpair.trans hbefore.isInfix))
      (congrArg Place.depth hbrackets.place)
    rw [chars_bracketToken] at hslash ⊢
    refine ⟨before, inside, hbrackets, hopen, ?_, rfl⟩
    simpa [hfront, grouped, Text.enclose] using hslash

theorem mem_of_keepsBackslash (h : tokenize limit text = .ok tokens) (hkeeps : KeepsBackslash text word) :
    ⟨.word, String.ofList word⟩ ∈ tokens := by
  obtain ⟨before, inside, hbrackets, hopen, -, rfl⟩ := hkeeps
  have hmem := bracketToken_mem h hbrackets
  rwa [bracketToken, List.isEmpty_eq_false_iff.2 hopen] at hmem

theorem KeepsBackslash.mem (h : KeepsBackslash text word) : '\\' ∈ word := by
  obtain ⟨before, inside, -, -, hslash, rfl⟩ := h
  simp [grouped, Text.enclose, hslash]

theorem infix_of_contents? (h : tokenize limit text = .ok tokens) (hmem : token ∈ tokens)
    (hcontents : token.contents? = some contents) : contents <:+: text := by
  cases standsIn_of_tokenize h hmem with
  | outside hkind _ _ _ => simp [Token.contents?, hkind] at hcontents
  | @bracketed before inside hbrackets =>
    obtain ⟨after, rfl⟩ := hbrackets.split
    rw [contents?_bracketToken, Option.ite_none_right_eq_some, Option.some.injEq] at hcontents
    rw [← hcontents.2]
    exact ⟨before ++ ['('], ')' :: after, by simp⟩

end Text

section Query

variable {query text : List Char} {level : Nat} {queue tokens : List Token} {t : Token} {p : Predicate}

theorem Expands.isInfix {limit : Option Nat} (h : Expands limit query level text) : text <:+: query := by
  induction h with
  | query => exact List.infix_rfl
  | group _ htokens hmem hcontents ih => exact (infix_of_contents? htokens hmem hcontents).trans ih

theorem mem_of_mem_splitItems {part : Item × List Token} (h : part ∈ splitItems queue) :
    part.1.token ∈ queue := by
  induction queue using queue_induction with
  | done queue hitem => simp [splitItems_of_none hitem] at h
  | next queue item rest hitem ih =>
    obtain ⟨hhere, hbehind⟩ := nextItem?_mem hitem
    rw [splitItems_of_some hitem] at h
    rcases List.mem_cons.1 h with rfl | hrest
    · exact hhere
    · exact hbehind (ih hrest)

theorem exists_text_of_mem_clauses (htext : Expands none query level text)
    (hqueue : tokenize none text = .ok queue) (h : t ∈ clauses queue) :
    ∃ level text tokens, Expands none query level text ∧ tokenize none text = .ok tokens ∧ t ∈ tokens := by
  induction h using mem_clauses_induction generalizing level text with
  | here queue part _ hpart htoken _ =>
    exact ⟨level, text, queue, htext, hqueue, htoken ▸ mem_of_mem_splitItems hpart⟩
  | inside queue part contents tokens _ _ hpart hcontents htokens ih =>
    exact ih (htext.group hqueue (mem_of_mem_splitItems hpart) hcontents) htokens

theorem clause?_of_result {limit : Option Nat} {before : Predicate} {part : Item × List Token}
    (h : (parseFrom limit before queue).result = .ok p) (hpart : part ∈ splitItems queue) :
    ∃ clause, part.1.token.clause? limit = .ok clause := by
  induction queue using queue_induction generalizing before with
  | done queue hitem => simp [splitItems_of_none hitem] at hpart
  | next queue item rest hitem ih =>
    rw [result_parseFrom hitem] at h
    cases hclause : item.token.clause? limit with
    | error e => simp [hclause] at h
    | ok clause =>
      rw [splitItems_of_some hitem] at hpart
      rcases List.mem_cons.1 hpart with rfl | hrest
      · exact ⟨clause, hclause⟩
      · cases clause with
        | none => exact ih (by simpa only [hclause] using h) hrest
        | some clause => exact ih (by simpa only [hclause] using h) hrest

theorem relation?_of_contents? {contents : List Char} (h : t.contents? = some contents) :
    t.relation? = none := by
  rw [Token.contents?, Option.ite_none_right_eq_some, Text.between?_eq_some_iff] at h
  have htext : t.text = String.ofList ('(' :: (contents ++ [')'])) := by
    rw [← String.ofList_toList (s := t.text)]
    exact congrArg String.ofList h.2
  exact relation?_eq_none htext (by decide) (by decide)

theorem relation?_of_backslash (h : '\\' ∈ t.chars) : t.relation? = none := by
  have hne : ∀ word : String, '\\' ∉ word.toList → t.text ≠ word := fun word hword heq =>
    hword (heq ▸ h)
  rw [Token.relation?, if_neg (hne "AND" (by decide)), if_neg (hne "OR" (by decide))]

theorem parses_of_clause? {limit : Option Nat} {contents : List Char} {clause : Option Predicate}
    (hcontents : t.contents? = some contents) (h : t.clause? limit = .ok clause) :
    ∃ tokens q, tokenize limit contents = .ok tokens ∧ (parse limit tokens).result = .ok q := by
  cases htokens : tokenize limit contents with
  | error e => simp [Token.clause?_unscanned hcontents htokens] at h
  | ok tokens =>
    rw [Token.clause?_group hcontents htokens] at h
    cases hresult : (parse limit tokens).result with
    | error e => simp [hresult, Except.map] at h
    | ok q => exact ⟨tokens, q, rfl, hresult⟩

theorem clauses_subset_of_expands (hqueue : tokenize none query = .ok queue)
    (hresult : (parse none queue).result = .ok p) (h : Expands none query level text) :
    ∃ tokens, tokenize none text = .ok tokens ∧ (∃ q, (parse none tokens).result = .ok q) ∧
      clauses tokens ⊆ clauses queue := by
  induction h with
  | query => exact ⟨queue, hqueue, ⟨p, hresult⟩, List.Subset.refl _⟩
  | group _ htokens hmem hcontents ih =>
    obtain ⟨tokens, hthese, ⟨q, hq⟩, hsubset⟩ := ih
    obtain rfl := Except.ok.inj (hthese.symm.trans htokens)
    obtain ⟨part, hpart, rfl⟩ := exists_item_of_mem hmem (relation?_of_contents? hcontents)
    obtain ⟨clause, hclause⟩ := clause?_of_result hq hpart
    obtain ⟨inner, r, hinner, hr⟩ := parses_of_clause? hcontents hclause
    refine ⟨inner, hinner, ⟨r, hr⟩, fun t ht => hsubset ?_⟩
    exact clauses_subset_of_mem_splitItems hpart (Token.clauses_of_group hcontents hinner ▸ ht)

end Query

section Texts

variable {ts : List Token} {text : String} {cs : List Char}

theorem mem_stripQuotes : '\\' ∈ stripQuotes cs ↔ '\\' ∈ cs := by
  rw [stripQuotes]
  cases hinner : Text.between? '"' '"' cs with
  | none => rfl
  | some inner => simp [Text.between?_eq_some_iff.1 hinner, Text.enclose]

theorem mem_operand_ofChars : '\\' ∈ (Criterion.ofChars cs).operand.toList ↔ '\\' ∈ cs := by
  unfold Criterion.ofChars Criterion.unquoted
  split <;> simp [mem_stripQuotes]

theorem texts_predicate? (c : Criterion) :
    c.predicate?.toList.flatMap Predicate.texts = if c.field.isText then [c.operand] else [] := by
  obtain ⟨field, operand⟩ := c
  cases field with
  | year =>
    cases hyears : readYears? operand.toList with
    | none => simp [Criterion.predicate?, hyears, Field.isText]
    | some years =>
      rcases readYears?_eq_some hyears with ⟨_, rfl, -⟩ | ⟨_, _, rfl, -⟩ <;>
        simp [Criterion.predicate?, hyears, Field.isText, Predicate.texts]
  | explicit =>
    cases hflag : readFlag? operand.toList <;>
      simp [Criterion.predicate?, hflag, Field.isText, Predicate.texts]
  | _ => rfl

theorem mem_texts_readable : text ∈ (readable ts).flatMap Predicate.texts ↔
    ∃ t ∈ ts, t.criterion.field.isText = true ∧ t.criterion.operand = text := by
  rw [readable, List.filterMap_eq_flatMap_toList, List.flatMap_assoc]
  simp only [texts_predicate?, List.mem_flatMap, List.mem_ite_nil_right, List.mem_singleton]
  exact exists_congr fun t => and_congr_right fun _ => and_congr_right fun _ => eq_comm

end Texts

theorem mem_clauses_iff_keepsBackslash {query word : List Char} {queue : List Token} {p : Predicate}
    (hpairs : ¬ ['\\', '\\'] <:+: query) (hqueue : tokenize none query = .ok queue)
    (hresult : (parse none queue).result = .ok p) (hslash : '\\' ∈ word) :
    (∃ t ∈ clauses queue, t.chars = word) ↔
      ∃ level contents, Expands none query level contents ∧ KeepsBackslash contents word := by
  constructor
  · rintro ⟨t, ht, rfl⟩
    obtain ⟨level, contents, tokens, hlevel, htokens, hmem⟩ := exists_text_of_mem_clauses .query hqueue ht
    have hinside : ¬ ['\\', '\\'] <:+: contents := fun hpair => hpairs (hpair.trans hlevel.isInfix)
    exact ⟨level, contents, hlevel,
      keepsBackslash_of_mem hinside htokens hmem (contents?_of_mem_clauses ht) hslash⟩
  · rintro ⟨level, contents, hlevel, hkeeps⟩
    obtain ⟨tokens, htokens, -, hsubset⟩ := clauses_subset_of_expands hqueue hresult hlevel
    have hchars : (⟨.word, String.ofList word⟩ : Token).chars = word := String.toList_ofList
    obtain ⟨part, hpart, hword⟩ := exists_item_of_mem (mem_of_keepsBackslash htokens hkeeps)
      (relation?_of_backslash (hchars.symm ▸ hslash))
    have hcontents : part.1.token.contents? = none := by rw [hword]; rfl
    have hclause := clauses_subset_of_mem_splitItems hpart
    rw [Token.clauses_of_criterion hcontents, hword] at hclause
    exact ⟨_, hsubset (hclause List.mem_cons_self), hchars⟩

theorem mem_texts_iff_keepsBackslash {query : List Char} {text : String} {queue : List Token}
    {p : Predicate} (hpairs : ¬ ['\\', '\\'] <:+: query) (hqueue : tokenize none query = .ok queue)
    (hresult : (parse none queue).result = .ok p) (hslash : '\\' ∈ text.toList) :
    text ∈ p.texts ↔
      ∃ level contents word, Expands none query level contents ∧ KeepsBackslash contents word ∧
        (Criterion.ofChars word).field.isText = true ∧ (Criterion.ofChars word).operand = text := by
  have hleaves : p.leaves = readable (clauses queue) := (parseFrom_keeps hresult).1
  rw [Predicate.texts_eq_flatMap_leaves, hleaves, mem_texts_readable]
  constructor
  · rintro ⟨t, ht, hfield, rfl⟩
    obtain ⟨level, contents, hlevel, hkeeps⟩ :=
      (mem_clauses_iff_keepsBackslash hpairs hqueue hresult (mem_operand_ofChars.1 hslash)).1 ⟨t, ht, rfl⟩
    exact ⟨level, contents, t.chars, hlevel, hkeeps, hfield, rfl⟩
  · rintro ⟨level, contents, word, hlevel, hkeeps, hfield, rfl⟩
    obtain ⟨t, ht, rfl⟩ :=
      (mem_clauses_iff_keepsBackslash hpairs hqueue hresult hkeeps.mem).2 ⟨level, contents, hlevel, hkeeps⟩
    exact ⟨t, ht, hfield, rfl⟩

/-- Where no backslash escapes another one, a text with a backslash is looked for just if some word keeps it:
the backslashes in all other texts are gone. -/
theorem backslash_in_texts_iff {compiler : Compiler} {query : String} {p : Predicate}
    (hpairs : ¬ ['\\', '\\'] <:+: query.toList) (h : compiler.compile query = .ok p) :
    (∀ text : String, '\\' ∈ text.toList → (text ∈ p.texts ↔
      ∃ level contents word, Expands none query.toList level contents ∧ KeepsBackslash contents word ∧
        (Criterion.ofChars word).field.isText = true ∧ (Criterion.ofChars word).operand = text)) ∧
      ((∀ text ∈ p.texts, '\\' ∉ text.toList) ↔
        ∀ level contents word, Expands none query.toList level contents → KeepsBackslash contents word →
          (Criterion.ofChars word).field.isText = false) := by
  obtain ⟨queue, hlimited, hresult⟩ := Compiler.tokens_of_compile h
  have hqueue := tokenize_none_of_tokenize hlimited
  refine ⟨fun text hslash => mem_texts_iff_keepsBackslash hpairs hqueue hresult hslash, ?_, ?_⟩
  · intro hnone level contents word hlevel hkeeps
    refine Bool.eq_false_iff.2 fun hfield => ?_
    have hslash := mem_operand_ofChars.2 hkeeps.mem
    have htext := (mem_texts_iff_keepsBackslash hpairs hqueue hresult hslash).2
      ⟨level, contents, word, hlevel, hkeeps, hfield, rfl⟩
    exact hnone _ htext hslash
  · intro hwords text htext hslash
    obtain ⟨level, contents, word, hlevel, hkeeps, hfield, -⟩ :=
      (mem_texts_iff_keepsBackslash hpairs hqueue hresult hslash).1 htext
    rw [hwords level contents word hlevel hkeeps] at hfield
    contradiction

theorem backslash_in_texts_iff_inside_group :
    ¬ ['\\', '\\'] <:+: "e:(\\o) (t:f(a\\ b) g\\(h)".toList ∧
      Compiler.unbounded.compile "e:(\\o) (t:f(a\\ b) g\\(h)" =
        .ok (.and (.titleContains "f(a\\ b)") (.freeText "g(h")) ∧
      ∃ level contents word, Expands none "e:(\\o) (t:f(a\\ b) g\\(h)".toList level contents ∧
        KeepsBackslash contents word ∧ (Criterion.ofChars word).field.isText = true ∧
        (Criterion.ofChars word).operand = "f(a\\ b)" := by
  have hpairs : ¬ ['\\', '\\'] <:+: "e:(\\o) (t:f(a\\ b) g\\(h)".toList := by decide +kernel
  have htokens : Compiler.unbounded.tokenize "e:(\\o) (t:f(a\\ b) g\\(h)" =
      .ok [⟨.word, "e:(\\o)"⟩, ⟨.group, "(t:f(a\\ b) g\\(h)"⟩] := rfl
  have hgroup : tokenize none "t:f(a\\ b) g\\(h".toList =
      .ok [⟨.word, "t:f(a\\ b)"⟩, ⟨.word, "g(h"⟩] := rfl
  have hflag : (⟨.word, "e:(\\o)"⟩ : Token).criterion.predicate? = none := by decide
  have hinner : (parse none [⟨.word, "t:f(a\\ b)"⟩, ⟨.word, "g(h"⟩]).result =
      .ok (.and (.titleContains "f(a\\ b)") (.freeText "g(h")) := by
    rw [parse, parseFrom_criterion rfl rfl rfl, parseFrom_criterion rfl rfl rfl, parseFrom_end rfl]
    rfl
  have h : Compiler.unbounded.compile "e:(\\o) (t:f(a\\ b) g\\(h)" =
      .ok (.and (.titleContains "f(a\\ b)") (.freeText "g(h")) := by
    rw [Compiler.compile_of_ok _ htokens, parse, parseFrom_dropped rfl rfl hflag,
      parseFrom_group rfl rfl hgroup hinner, parseFrom_end rfl]
    rfl
  exact ⟨hpairs, h, ((backslash_in_texts_iff hpairs h).1 "f(a\\ b)" (by decide)).1 (by decide)⟩

theorem backslash_left_in_word :
    ¬ ∀ (query : String) (p : Predicate), ¬ ['\\', '\\'] <:+: query.toList →
      Compiler.unbounded.compile query = .ok p → ∀ text ∈ p.texts, '\\' ∉ text.toList := by
  intro h
  have htokens : Compiler.unbounded.tokenize "f(a\\ b)" = .ok [⟨.word, "f(a\\ b)"⟩] := rfl
  have hcompile : Compiler.unbounded.compile "f(a\\ b)" = .ok (.freeText "f(a\\ b)") := by
    rw [Compiler.compile_of_ok _ htokens, parse, parseFrom_criterion rfl rfl rfl, parseFrom_end rfl]
    rfl
  exact h "f(a\\ b)" _ (by decide +kernel) hcompile "f(a\\ b)" (by decide) (by decide)

end TrackSearch.Query
