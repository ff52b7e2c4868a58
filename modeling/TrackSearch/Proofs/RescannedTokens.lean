import TrackSearch.Proofs.KeptText
import TrackSearch.Proofs.Words

/-! Tokens scanned again. As long as no backslash has been taken off the pending text, the rest of a query
is read behind that text alone as it is read where it stands, so a token that ends there comes back from
its own text. That is so in all of a query without backslashes, and within a group in every query. -/

namespace TrackSearch.Query

theorem mem_of_mem_keptFrom {before : List Mark} {p : Place} {cs : List Char} {c : Char}
    (h : c ∈ keptFrom before (marks p cs)) : c ∈ cs := by
  induction cs generalizing before p with
  | nil => exact h
  | cons d cs ih =>
    rw [marks, keptFrom] at h
    rcases List.mem_append.1 h with hhere | hrest
    · split at hhere
      · contradiction
      · exact List.mem_singleton.1 hhere ▸ List.mem_cons_self
    · exact List.mem_cons_of_mem d (ih hrest)

theorem endsInBackslash_of_not_mem {cs : List Char} (h : '\\' ∉ cs) :
    endsInBackslash false cs = false := by
  induction cs with
  | nil => rfl
  | cons c cs ih =>
    rw [List.mem_cons, not_or] at h
    have hc : (c == '\\') = false := beq_false_of_ne (Ne.symm h.1)
    rw [endsInBackslash, hc]
    exact ih h.2

namespace Scan

variable {limit : Option Nat} {s last : Scan} {c : Char} {cs : List Char} {token : Token}
  {tokens : List Token}

/-- The rest of a query is read from here as it is read behind the pending text alone. -/
def Resumes (limit : Option Nat) (s : Scan) : Prop :=
  ∀ cs, tokenize limit (s.pending.reverse ++ cs) = s.tokensFrom limit cs

theorem resumes_between (leads : Bool) : (between leads).Resumes limit :=
  fun _ => (tokensFrom_with_leads (s := start) rfl leads).symm

theorem tokensFrom_of_read (hlimit : ∀ n ∈ limit, (s.read c).2.depth ≤ n) (cs : List Char) :
    s.tokensFrom limit (c :: cs) =
      ((s.read c).2.tokensFrom limit cs).map ((s.read c).1.toList ++ ·) := by
  rw [tokensFrom_cons, filter_eq_none_iff.2 hlimit]

theorem Resumes.read (h : s.Resumes limit) (hapart : s.Apart)
    (hlimit : ∀ n ∈ limit, (s.read c).2.depth ≤ n) (hslash : s.depth = 0 → c ≠ '\\') :
    (s.read c).2.Resumes limit := by
  cases s.reads c with
  | escape mark token pending =>
    obtain ⟨hc, -, hdepth⟩ := Mark.isEscape_iff.1 mark
    exact absurd hc (hslash hdepth)
  | separator mark token pending =>
    rw [hapart.read_ending (Or.inl mark)]
    exact resumes_between _
  | closing kind mark token pending =>
    rw [hapart.read_ending (Or.inr mark)]
    exact resumes_between _
  | text escape separator closing token pending =>
    intro cs
    have hrest := (h (c :: cs)).trans (tokensFrom_of_read hlimit cs)
    rw [pending, List.reverse_cons, List.append_assoc, List.singleton_append, hrest, token]
    cases (s.read c).2.tokensFrom limit cs <;> rfl

theorem Resumes.retokenize_flush (h : s.Resumes limit) (hquotes : s.inQuotes = false)
    (hdepth : s.depth = 0) (hflush : s.flush.1 = some token) :
    tokenize limit token.chars = .ok [token] := by
  have hchars : token.chars = s.pending.reverse := by
    unfold flush at hflush
    split at hflush
    · contradiction
    · rw [← Option.some.inj hflush, Token.chars, text, String.toList_ofList]
  have hend : s.tokensFrom limit [] = .ok s.flush.1.toList := by
    simp [tokensFrom, readAll, finish, hquotes, hdepth, Except.map]
  rw [hchars, ← List.append_nil s.pending.reverse, h, hend, hflush, Option.toList_some]

theorem Resumes.retokenize_read (h : s.Resumes limit) (hapart : s.Apart)
    (htoken : (s.read c).1 = some token) : tokenize limit token.chars = .ok [token] := by
  cases s.reads c with
  | escape mark none pending => simp [none] at htoken
  | separator mark flushed pending =>
    obtain ⟨-, -, hquotes, hdepth⟩ := Mark.isSeparator_iff.1 mark
    exact h.retokenize_flush hquotes hdepth (flushed ▸ htoken)
  | closing kind mark ended pending =>
    have hchars : token.chars = s.pending.reverse ++ [c] := by
      rw [← Option.some.inj (ended.symm.trans htoken), Token.chars, String.toList_ofList,
        List.reverse_cons]
    have hbetween := hapart.read_ending (Or.inr mark)
    have hlimit : ∀ n ∈ limit, (s.read c).2.depth ≤ n := fun n _ => hbetween ▸ Nat.zero_le n
    have hnothing : (between s.leads).tokensFrom limit [] = .ok [] := rfl
    rw [hchars, h, tokensFrom_of_read hlimit, htoken, hbetween, hnothing]
    rfl
  | text escape separator closing none pending => simp [none] at htoken

theorem Resumes.readAll (h : s.Resumes limit) (hapart : s.Apart) (hslash : '\\' ∉ cs)
    (hread : s.readAll limit cs = .ok (tokens, last)) :
    last.Resumes limit ∧ ∀ token ∈ tokens, tokenize limit token.chars = .ok [token] := by
  have hstep : ∀ s : Scan, ∀ c ∈ cs, s.Resumes limit ∧ s.Apart →
      (∀ n ∈ limit, (s.read c).2.depth ≤ n) →
        (s.read c).2.Resumes limit ∧ (s.read c).2.Apart := fun s c hc hs hlimit =>
    ⟨hs.1.read hs.2 hlimit fun _ => ne_of_mem_of_not_mem hc hslash, hs.2.read c⟩
  have htoken : ∀ s : Scan, ∀ c ∈ cs, ∀ token, s.Resumes limit ∧ s.Apart →
      (s.read c).1 = some token → tokenize limit token.chars = .ok [token] := fun s c _ token hs =>
    hs.1.retokenize_read hs.2
  obtain ⟨hlast, htokens⟩ := readAll_invariant hstep htoken ⟨h, hapart⟩ hread
  exact ⟨hlast.1, htokens⟩

structure Reopens (limit : Option Nat) (s : Scan) : Prop where
  apart : s.Apart
  resumes : s.depth ≠ 0 → s.leads = true → s.Resumes limit

theorem Reopens.read (h : s.Reopens limit) (hlimit : ∀ n ∈ limit, (s.read c).2.depth ≤ n) :
    (s.read c).2.Reopens limit := by
  refine ⟨h.apart.read c, fun hafter hleads => ?_⟩
  by_cases hbefore : s.depth = 0
  · -- The bracket that opens a group is the first character of its token.
    obtain ⟨hescaped, hquotes, rfl, hread⟩ := read_opening hbefore hafter
    have hpending : s.pending = [] := by
      rw [hread] at hleads
      exact List.isEmpty_iff.1 hleads
    have hstart : s.Resumes limit := by
      rw [eq_between hpending hescaped hquotes hbefore]
      exact resumes_between _
    exact hstart.read h.apart hlimit fun _ => by decide
  · rw [(read_staying hbefore hafter).2.2.1] at hleads
    exact (h.resumes hbefore hleads).read h.apart hlimit fun hzero => absurd hzero hbefore

theorem Reopens.retokenize_read (h : s.Reopens limit) (htoken : (s.read c).1 = some token)
    (hkind : token.kind = .group) : tokenize limit token.chars = .ok [token] := by
  obtain ⟨hdepth, hleads, -⟩ := read_group htoken hkind
  have hopen : s.depth ≠ 0 := by omega
  exact (h.resumes hopen hleads).retokenize_read h.apart htoken

end Scan

section Tokens

variable {limit : Option Nat} {query : List Char} {tokens : List Token} {token : Token}

theorem mem_query_of_mem_token {c : Char} (h : tokenize limit query = .ok tokens)
    (hmem : token ∈ tokens) (hc : c ∈ token.chars) : c ∈ query := by
  have hkept := Scan.traces_start.chars_tokensFrom (s := .start) h
  have hchars : c ∈ tokens.flatMap Token.chars := List.mem_flatMap.2 ⟨token, hmem, hc⟩
  rw [hkept] at hchars
  exact mem_of_mem_keptFrom (by simpa [Scan.start] using hchars)

theorem retokenize_of_no_backslash (h : tokenize limit query = .ok tokens) (hslash : '\\' ∉ query) :
    ∀ token ∈ tokens, tokenize limit token.chars = .ok [token] := by
  obtain ⟨read, last, hread, hquotes, hdepth, rfl⟩ := tokenize_ok h
  obtain ⟨hlast, htokens⟩ := (Scan.resumes_between false).readAll Scan.apart_start hslash hread
  intro token hmem
  rcases List.mem_append.1 hmem with hhere | hflush
  · exact htokens token hhere
  · exact hlast.retokenize_flush hquotes hdepth (Option.mem_toList.1 hflush)

theorem retokenize_group (h : tokenize limit query = .ok tokens) (hmem : token ∈ tokens)
    (hkind : token.kind = .group) : tokenize limit token.chars = .ok [token] := by
  have hstart : Scan.start.Reopens limit := ⟨Scan.apart_start, fun hopen => absurd rfl hopen⟩
  refine tokenize_invariant (fun s c _ (hs : s.Reopens limit) => hs.read)
    (fun s c _ token hs => hs.retokenize_read) (fun token hword hgroup => ?_) hstart h token hmem hkind
  simp [hword] at hgroup

theorem tokenize_joined (hend : ∀ token ∈ tokens, endsInBackslash false token.chars = false)
    (h : ∀ token ∈ tokens, tokenize limit token.chars = .ok [token]) :
    tokenize limit (TagName.joinWords (tokens.map Token.chars)) = .ok tokens := by
  induction tokens with
  | nil => rfl
  | cons first tokens ih =>
    have hfirst := h first List.mem_cons_self
    have hrest := ih (fun t ht => hend t (List.mem_cons_of_mem first ht))
      fun t ht => h t (List.mem_cons_of_mem first ht)
    cases tokens with
    | nil => simpa [TagName.joinWords] using hfirst
    | cons second tokens =>
      have hblank := hend first List.mem_cons_self
      rw [List.map_cons, List.map_cons, TagName.joinWords_cons_cons,
        tokenize_append_blank hfirst hblank rfl, ← List.map_cons, hrest]
      rfl

end Tokens

/-- The tokens of a query without backslashes come back from their texts, alone or with blanks between them,
and groups come back from theirs in any query. -/
theorem rescanned_tokens {compiler : Compiler} {query : String} {tokens : List Token}
    (h : compiler.tokenize query = .ok tokens) :
    ('\\' ∉ query.toList →
        compiler.tokenize (String.intercalate " " (tokens.map Token.text)) = .ok tokens ∧
          ∀ token ∈ tokens, compiler.tokenize token.text = .ok [token]) ∧
      ∀ token ∈ tokens, token.kind = .group → compiler.tokenize token.text = .ok [token] := by
  refine ⟨fun hslash => ?_, fun token hmem hkind => retokenize_group h hmem hkind⟩
  have hsingle := retokenize_of_no_backslash h hslash
  refine ⟨?_, hsingle⟩
  have hend : ∀ token ∈ tokens, endsInBackslash false token.chars = false := fun token hmem =>
    endsInBackslash_of_not_mem fun hc => hslash (mem_query_of_mem_token h hmem hc)
  have hjoined := tokenize_joined hend hsingle
  rw [Compiler.tokenize, String.toList_intercalate, List.map_map]
  exact hjoined

theorem rescanned_tokens_adjacent :
    (Compiler.mk (some 1)).tokenize "a\"b c\"(d \"e)f(g h)i" =
        .ok [⟨.quoted, "a\"b c\""⟩, ⟨.group, "(d \"e)"⟩, ⟨.word, "f(g h)"⟩, ⟨.word, "i"⟩] ∧
      '\\' ∉ "a\"b c\"(d \"e)f(g h)i".toList ∧
      (Compiler.mk (some 1)).tokenize "a\"b c\" (d \"e) f(g h) i" =
        .ok [⟨.quoted, "a\"b c\""⟩, ⟨.group, "(d \"e)"⟩, ⟨.word, "f(g h)"⟩, ⟨.word, "i"⟩] ∧
      (Compiler.mk (some 1)).tokenize "f(g h)" = .ok [⟨.word, "f(g h)"⟩] ∧
      (Compiler.mk (some 1)).tokenize "\\(x(\\))(a\\) \\b)" =
        .ok [⟨.word, "(x(\\))"⟩, ⟨.group, "(a\\) \\b)"⟩] ∧
      (Compiler.mk (some 1)).tokenize "(a\\) \\b)" = .ok [⟨.group, "(a\\) \\b)"⟩] := by
  have hplain : (Compiler.mk (some 1)).tokenize "a\"b c\"(d \"e)f(g h)i" =
      .ok [⟨.quoted, "a\"b c\""⟩, ⟨.group, "(d \"e)"⟩, ⟨.word, "f(g h)"⟩, ⟨.word, "i"⟩] := rfl
  have hslash : '\\' ∉ "a\"b c\"(d \"e)f(g h)i".toList := by decide
  have hescaped : (Compiler.mk (some 1)).tokenize "\\(x(\\))(a\\) \\b)" =
      .ok [⟨.word, "(x(\\))"⟩, ⟨.group, "(a\\) \\b)"⟩] := rfl
  obtain ⟨hjoined, hsingle⟩ := (rescanned_tokens hplain).1 hslash
  have hgroup := (rescanned_tokens hescaped).2 ⟨.group, "(a\\) \\b)"⟩ (by simp) rfl
  exact ⟨hplain, hslash, hjoined, hsingle ⟨.word, "f(g h)"⟩ (by simp), hescaped, hgroup⟩

end TrackSearch.Query
