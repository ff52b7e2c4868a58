import TrackSearch.Proofs.ParsedShape

/-! A rendering compiles, and to the predicate that was rendered exactly when that one is canonical; the
canonical predicates are those that some query compiles to. A limit that admits a query admits the
rendering of what it compiles to. -/

namespace TrackSearch.Query

theorem stripQuotes_enclose (cs : List Char) : stripQuotes (Text.enclose '"' '"' cs) = cs := by
  rw [stripQuotes, Text.between?_enclose]
  rfl

theorem criterion_quotedToken {field : Field} (start : List Char) (text : String)
    (h : ∀ cs, Criterion.ofChars (start ++ '"' :: cs) = Criterion.unquoted field ('"' :: cs)) :
    (quotedToken start text).criterion = ⟨field, text⟩ := by
  rw [Token.criterion, Token.chars, quotedToken, String.toList_ofList, Text.enclose, h]
  rw [Criterion.unquoted, ← Text.enclose, stripQuotes_enclose, String.ofList_toList]

theorem relation?_eq_none {t : Token} {c : Char} {cs : List Char} (h : t.text = String.ofList (c :: cs))
    (hand : c ≠ 'A') (hor : c ≠ 'O') : t.relation? = none := by
  have hne : ∀ d ds, c ≠ d → t.text ≠ String.ofList (d :: ds) := by
    intro d ds hd heq
    have := String.ofList_injective (h.symm.trans heq)
    exact hd (List.cons.inj this).1
  rw [Token.relation?, if_neg (hne 'A' ['N', 'D'] hand), if_neg (hne 'O' ['R'] hor)]

namespace Predicate

theorem relation?_operand (p : Predicate) : p.operand.relation? = none := by
  cases p <;> exact relation?_eq_none rfl (by decide) (by decide)

theorem predicate?_operand {p : Predicate} (hleaf : (p.isAlways || p.isCombined) = false)
    (h : p.IsCanonical) : p.operand.criterion.predicate? = some p := by
  cases p with
  | always => simp [isAlways] at hleaf
  | and left right => simp [isCombined] at hleaf
  | or left right => simp [isCombined] at hleaf
  | titleContains text => rw [operand, criterion_quotedToken _ _ fun _ => rfl]; rfl
  | artistContains text => rw [operand, criterion_quotedToken _ _ fun _ => rfl]; rfl
  | albumContains text => rw [operand, criterion_quotedToken _ _ fun _ => rfl]; rfl
  | tagIncluded name => rw [operand, criterion_quotedToken _ _ fun _ => rfl]; rfl
  | tagExcluded name => rw [operand, criterion_quotedToken _ _ fun _ => rfl]; rfl
  | freeText text => rw [operand, criterion_quotedToken _ _ fun _ => rfl]; rfl
  | explicitIs flag => cases flag <;> decide
  | yearEquals year =>
    have hoperand : (yearEquals year).operand.criterion =
        ⟨.year, String.ofList (Text.showInt32 year)⟩ := by
      rw [operand, Token.criterion, Token.chars, render, String.toList_ofList]
      rfl
    simp only [hoperand, Criterion.predicate?, String.toList_ofList]
    exact readYears?_showInt32 h
  | yearRange min max =>
    have hoperand : (yearRange min max).operand.criterion =
        ⟨.year, String.ofList (showBound min ++ "-".toList ++ showBound max)⟩ := by
      rw [operand, Token.criterion, Token.chars, render, String.toList_ofList]
      simp [chars, Criterion.ofChars]
    obtain ⟨hsome, hmin, hmax⟩ := h
    simp only [hoperand, Criterion.predicate?, String.toList_ofList, List.append_assoc]
    exact (readYears?_showBounds hmin hmax).trans (rangeOf?_of_isSome hsome)

/-- Behind `tokens` parsing goes on with some predicate, and with `p` itself if it is canonical. -/
def Rereads (p : Predicate) (tokens : List Token) : Prop :=
  ∃ r, (p.IsCanonical → r = p) ∧
    ∀ rest, (parseFrom none always (tokens ++ rest)).result = (parseFrom none r rest).result

theorem clause?_groupToken {p : Predicate} (h : p.Rereads p.tokens) :
    ∃ clause, (groupToken p.chars).clause? none = .ok clause ∧ (p.IsCanonical → clause = some p) := by
  obtain ⟨r, hr, hparse⟩ := h
  have htokens : tokenize none p.chars = .ok p.tokens := p.tokenize_chars (by simp)
  have hinner : (parse none p.tokens).result = .ok r := by
    rw [parse, ← List.append_nil p.tokens, hparse, parseFrom_end rfl]
  refine ⟨some r, ?_, fun hp => congrArg some (hr hp)⟩
  rw [Token.clause?_group (contents?_groupToken _) htokens, hinner, Except.map]

theorem clause?_operand {p : Predicate} (h : (p.isAlways || p.isCombined) = true → p.Rereads p.tokens) :
    ∃ clause, p.operand.clause? none = .ok clause ∧ (p.IsCanonical → clause = some p) := by
  cases hleaf : p.isAlways || p.isCombined with
  | false =>
    have hcontents : p.operand.contents? = none := by
      cases p <;> first | rfl | simp [isAlways, isCombined] at hleaf
    exact ⟨_, Token.clause?_criterion hcontents, predicate?_operand hleaf⟩
  | true =>
    have hgroup : p.operand = groupToken p.chars := by
      cases p <;> first | rfl | simp [isAlways, isCombined] at hleaf
    exact hgroup ▸ clause?_groupToken (h hleaf)

theorem parse_operand {p : Predicate} (h : (p.isAlways || p.isCombined) = true → p.Rereads p.tokens)
    (before : Predicate) (relation : Option Relation) :
    ∃ r, (p.IsCanonical → r = join before relation p) ∧
      ∀ queue rest, nextItem? queue = some (⟨relation, p.operand⟩, rest) →
        (parseFrom none before queue).result = (parseFrom none r rest).result := by
  obtain ⟨clause, hclause, hp⟩ := clause?_operand h
  cases clause with
  | none =>
    refine ⟨before, fun hcanonical => absurd (hp hcanonical) (by simp), fun queue rest hitem => ?_⟩
    rw [result_parseFrom hitem, hclause]
  | some clause =>
    refine ⟨join before relation clause, fun hcanonical => ?_, fun queue rest hitem => ?_⟩
    · rw [Option.some.inj (hp hcanonical)]
    · rw [result_parseFrom hitem, hclause]

theorem nextItem?_operand (p : Predicate) (rest : List Token) :
    nextItem? (p.operand :: rest) = some (⟨none, p.operand⟩, rest) := by
  simp only [nextItem?, p.relation?_operand]

theorem rereads_operand {p : Predicate}
    (h : (p.isAlways || p.isCombined) = true → p.Rereads p.tokens) : p.Rereads [p.operand] := by
  obtain ⟨r, hr, hparse⟩ := parse_operand h always none
  exact ⟨r, hr, fun rest => hparse _ rest (p.nextItem?_operand rest)⟩

theorem rereads_leading {p : Predicate} (h : p.Rereads p.tokens) : p.Rereads p.leadingTokens := by
  unfold leadingTokens
  split
  · exact rereads_operand fun _ => h
  · exact h

theorem rereads_combined {left right p : Predicate} {relation : Relation} {token : Token}
    (hleft : left.Rereads left.tokens) (hright : right.Rereads right.tokens)
    (hrelation : token.relation? = some relation)
    (hp : p.IsCanonical → left ≠ always ∧ left.IsCanonical ∧ right.IsCanonical)
    (hjoin : left.isAlways = false → join left (some relation) right = p) :
    p.Rereads (left.leadingTokens ++ [token, right.operand]) := by
  obtain ⟨l, hl, hbefore⟩ := rereads_leading hleft
  obtain ⟨r, hr, hbehind⟩ := parse_operand (fun _ => hright) l (some relation)
  refine ⟨r, fun hcanonical => ?_, fun rest => ?_⟩
  · obtain ⟨hne, hcleft, hcright⟩ := hp hcanonical
    have halways : left.isAlways = false := Bool.eq_false_iff.2 fun h => hne (isAlways_iff.1 h)
    rw [hr hcright, hl hcleft, hjoin halways]
  · rw [List.append_assoc, hbefore]
    exact hbehind _ rest (by simp only [List.cons_append, List.nil_append, nextItem?, hrelation])

theorem rereads_tokens (p : Predicate) : p.Rereads p.tokens := by
  induction p with
  | always => exact ⟨always, fun _ => rfl, fun _ => rfl⟩
  | and left right hleft hright =>
    exact rereads_combined hleft hright rfl id fun halways => by simp [join, halways]
  | or left right hleft hright =>
    exact rereads_combined hleft hright rfl id fun halways => by simp [join, halways]
  | _ => exact rereads_operand (by simp [isAlways, isCombined])

theorem peakDepth_render_le (p : Predicate) : peakDepth p.render ≤ p.bracketDepth := by
  have htokens : tokenize (some p.bracketDepth) p.chars = .ok p.tokens :=
    p.tokenize_chars fun n hn => Nat.le_of_eq (Option.some.inj hn)
  rw [peakDepth, render, String.toList_ofList]
  exact peak_le_of_tokenize htokens

theorem exists_compile_render (p : Predicate) :
    ∃ r, Compiler.unbounded.compile p.render = .ok r ∧ (p.IsCanonical → r = p) := by
  obtain ⟨r, hr, hparse⟩ := p.rereads_tokens
  have htokens : Compiler.unbounded.tokenize p.render = .ok p.tokens := by
    rw [Compiler.tokenize, render, String.toList_ofList]
    exact p.tokenize_chars (by simp [Compiler.unbounded])
  refine ⟨r, ?_, hr⟩
  rw [Compiler.compile_of_ok _ htokens, parse, ← List.append_nil p.tokens, hparse, parseFrom_end rfl]

end Predicate

namespace Compiler

theorem parses_of_compile {query : String} {p : Predicate} (h : unbounded.compile query = .ok p) :
    ∃ tokens, tokenize unbounded query = .ok tokens ∧ Parses none .always tokens p := by
  obtain ⟨tokens, htokens, hparse⟩ := tokens_of_compile h
  exact ⟨tokens, htokens, parses_of_result hparse⟩

theorem isCanonical_of_compile {query : String} {p : Predicate}
    (h : unbounded.compile query = .ok p) : p.IsCanonical := by
  obtain ⟨tokens, -, hparses⟩ := parses_of_compile h
  exact isCanonical_of_parses hparses trivial

theorem bracketDepth_le_of_compile {query : String} {p : Predicate}
    (h : unbounded.compile query = .ok p) : p.bracketDepth ≤ peakDepth query := by
  obtain ⟨tokens, htokens, hparses⟩ := parses_of_compile h
  exact bracketDepth_of_parses hparses (fun _ ht => nests_of_tokenize htokens ht) (Nat.zero_le _)

end Compiler

/-- What a query compiles to is written as a query that compiles to it again with the same limit, in
brackets that nest no deeper than those of the first. -/
theorem compile_render {compiler : Compiler} {query : String} {p : Predicate}
    (h : compiler.compile query = .ok p) :
    compiler.compile p.render = .ok p ∧ peakDepth p.render ≤ peakDepth query := by
  have hunbounded := Compiler.compile_unbounded h
  have hpeak : peakDepth p.render ≤ peakDepth query :=
    Nat.le_trans p.peakDepth_render_le (Compiler.bracketDepth_le_of_compile hunbounded)
  obtain ⟨r, hr, hp⟩ := p.exists_compile_render
  obtain rfl := hp (Compiler.isCanonical_of_compile hunbounded)
  refine ⟨?_, hpeak⟩
  obtain ⟨_ | n⟩ := compiler
  · exact hr
  · rw [Compiler.compile_of_peakDepth_le (Nat.le_trans hpeak (Compiler.peakDepth_le_of_compile h)), hr]

theorem compile_render_nested_groups :
    (Compiler.mk (some 2)).compile "t:a OR (-b ())" =
        .ok (.or (.titleContains "a") (.and (.tagExcluded "b") .always)) ∧
      (Compiler.mk (some 2)).compile
          (Predicate.or (.titleContains "a") (.and (.tagExcluded "b") .always)).render =
        .ok (.or (.titleContains "a") (.and (.tagExcluded "b") .always)) ∧
      peakDepth (Predicate.or (.titleContains "a") (.and (.tagExcluded "b") .always)).render ≤
        peakDepth "t:a OR (-b ())" := by
  have htokens : (Compiler.mk (some 2)).tokenize "t:a OR (-b ())" =
      .ok [⟨.word, "t:a"⟩, ⟨.word, "OR"⟩, ⟨.group, "(-b ())"⟩] := rfl
  have hgroup : tokenize none "-b ()".toList = .ok [⟨.word, "-b"⟩, ⟨.group, "()"⟩] := rfl
  have hnothing : (parse none []).result = .ok .always := by rw [parse, parseFrom_end rfl]
  have hinner : (parse none [⟨.word, "-b"⟩, ⟨.group, "()"⟩]).result =
      .ok (.and (.tagExcluded "b") .always) := by
    rw [parse, parseFrom_criterion rfl rfl rfl, parseFrom_group rfl rfl rfl hnothing, parseFrom_end rfl]
    rfl
  have h : (Compiler.mk (some 2)).compile "t:a OR (-b ())" =
      .ok (.or (.titleContains "a") (.and (.tagExcluded "b") .always)) := by
    rw [Compiler.compile_of_ok _ htokens, parse, parseFrom_criterion rfl rfl rfl,
      parseFrom_group rfl rfl hgroup hinner, parseFrom_end rfl]
    rfl
  exact ⟨h, compile_render h⟩

/-- Every rendering compiles without a limit, to the predicate itself exactly if that one is canonical;
and the canonical predicates are exactly those that queries compile to. -/
theorem compile_render_iff_canonical (p : Predicate) :
    (∃ r, Compiler.unbounded.compile p.render = .ok r ∧ (r = p ↔ p.IsCanonical)) ∧
      ((∃ query, Compiler.unbounded.compile query = .ok p) ↔ p.IsCanonical) := by
  obtain ⟨r, hr, hp⟩ := p.exists_compile_render
  refine ⟨⟨r, hr, ?_, hp⟩, ?_, fun hcanonical => ?_⟩
  · rintro rfl
    exact Compiler.isCanonical_of_compile hr
  · rintro ⟨query, hquery⟩
    exact Compiler.isCanonical_of_compile hquery
  · exact ⟨p.render, by rw [hr, hp hcanonical]⟩

end TrackSearch.Query
