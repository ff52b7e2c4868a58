import TrackSearch.Proofs.RenderedTokens
import TrackSearch.Proofs.SeparatedText
import TrackSearch.Query.Clause

/-! Texts in brackets. A text comes back whole as one token just if its own brackets are balanced; if they
are not, the token ends before the text does, or the text ends before the token. What a scan takes for a
group starts and ends with a bracket, whatever it is a part of. -/

namespace TrackSearch

theorem Text.trim_enclose {opening closing : Char} (hopen : isBlank opening = false)
    (hclose : isBlank closing = false) (cs : List Char) :
    trim (enclose opening closing cs) = enclose opening closing cs := by
  simp [trim, trimRight, trimLeft, enclose, hopen, hclose]

namespace Query

namespace Scan

variable {limit : Option Nat} {s : Scan} {cs : List Char} {depth : Nat} {token : Token}

theorem readAll_grouped (hescaped : s.escaped = false) (hquotes : s.inQuotes = false)
    (hdepth : s.depth = 0) (h : Balanced cs) :
    s.readAll none (grouped cs) =
      .ok ([⟨if s.pending.isEmpty then .group else .word, String.ofList (s.pending.reverse ++ grouped cs)⟩],
        { s with leads := s.pending.isEmpty, pending := [] }) := by
  let opened : Scan := { s with leads := s.pending.isEmpty, depth := 1, pending := '(' :: s.pending }
  let filled : Scan := { opened with pending := cs.reverse ++ opened.pending }
  have hopen : s.read '(' = (none, opened) := read_bracket hdepth hescaped hquotes
  have hinside : opened.readAll none cs = .ok ([], filled) :=
    nested_of_balanced h none opened Nat.one_ne_zero hescaped (by simp)
  have hclose := read_outermost_close (s := filled) rfl hescaped
  have hwhole := readAll_cons hopen (by simp) (readAll_append hinside (readAll_single hclose (by simp)))
  simpa [grouped, Text.enclose, filled, opened, hdepth] using hwhole

theorem openAfter?_of_tokensFrom (hdepth : s.depth = 1 + depth)
    (h : s.tokensFrom none (cs ++ [')']) = .ok [token])
    (hchars : token.chars = s.pending.reverse ++ (cs ++ [')'])) :
    openAfter? depth s.escaped cs = some 0 := by
  have hinside : s.depth ≠ 0 := by omega
  induction cs generalizing s depth with
  | nil =>
    obtain ⟨more, -, hmore⟩ := tokensFrom_cons_ok h
    obtain ⟨hescaped, hone, -, -⟩ := read_closing hinside (tokensFrom_nil_ok hmore).1
    obtain rfl : depth = 0 := by omega
    rw [hescaped]
    rfl
  | cons c cs ih =>
    obtain ⟨more, htokens, hmore⟩ := tokensFrom_cons_ok h
    by_cases hafter : (s.read c).2.depth = 0
    · -- The token ends here, so that it has no room for the rest.
      obtain ⟨-, -, -, hclosed⟩ := read_closing hinside hafter
      rw [hclosed] at htokens
      obtain ⟨rfl, -⟩ := List.cons.inj htokens
      have hlength := congrArg List.length hchars
      simp [Token.chars] at hlength
    · obtain ⟨htoken, hpending, -, -⟩ := read_staying hinside hafter
      rw [htoken] at htokens
      obtain rfl : [token] = more := htokens
      have hbelow : ¬(s.escaped = false ∧ c = ')' ∧ depth = 0) := by
        rintro ⟨hescaped, rfl, rfl⟩
        exact hafter (by rw [read_outermost_close hdepth hescaped])
      have hnext := depth_read_around Nat.one_ne_zero hdepth hbelow
      have hrest : token.chars = (s.read c).2.pending.reverse ++ (cs ++ [')']) := by
        rw [hchars, hpending]
        simp
      rw [openAfter?_cons, if_neg hbelow, ← escaped_read]
      exact ih hnext hmore hrest hafter

def Led (s : Scan) : Prop := s.depth ≠ 0 → s.leads = true → ∃ cs, s.pending.reverse = '(' :: cs

theorem Led.read {c : Char} (h : s.Led) : (s.read c).2.Led := by
  intro hafter hleads
  by_cases hbefore : s.depth = 0
  · obtain ⟨-, -, rfl, hread⟩ := read_opening hbefore hafter
    rw [hread, List.isEmpty_iff] at hleads
    exact ⟨[], by rw [hread, hleads]; rfl⟩
  · obtain ⟨-, hpending, hsame, -⟩ := read_staying hbefore hafter
    obtain ⟨cs, hcs⟩ := h hbefore (hsame ▸ hleads)
    exact ⟨cs ++ [c], by rw [hpending, List.reverse_cons, hcs]; rfl⟩

theorem Led.grouped_of_read {c : Char} (h : s.Led) (hread : (s.read c).1 = some token)
    (hkind : token.kind = .group) : ∃ cs, token.chars = grouped cs := by
  obtain ⟨hdepth, hleads, rfl⟩ := read_group hread hkind
  have hopen : s.depth ≠ 0 := by omega
  obtain ⟨cs, hcs⟩ := h hopen hleads
  exact ⟨cs, by simp [Token.chars, hcs, grouped, Text.enclose]⟩

end Scan

section Groups

variable {limit : Option Nat} {query : List Char} {tokens : List Token} {token : Token}

theorem grouped_of_tokenize (h : tokenize limit query = .ok tokens) (hmem : token ∈ tokens)
    (hkind : token.kind = .group) : ∃ cs, token.chars = grouped cs := by
  refine tokenize_invariant (fun s c _ (hs : Scan.Led s) _ => hs.read)
    (fun s c _ token hs hend hgroup => hs.grouped_of_read hend hgroup)
    (fun token hword hgroup => ?_) (fun hopen => absurd rfl hopen) h token hmem hkind
  simp [hword] at hgroup

theorem trim_group (h : tokenize limit query = .ok tokens) (hmem : token ∈ tokens)
    (hkind : token.kind = .group) : Text.trim token.chars = token.chars := by
  obtain ⟨cs, hcs⟩ := grouped_of_tokenize h hmem hkind
  rw [hcs]
  exact Text.trim_enclose rfl rfl cs

theorem tokenize_grouped (h : Balanced query) : tokenize none (grouped query) = .ok [groupToken query] :=
  (readsAs_grouped (nested_of_balanced h) (by simp)).tokenize

end Groups

/-- A text in brackets is one group just if it is balanced itself, and the group stands for that text. -/
theorem bracketed_one_group_iff (text : String) :
    (Compiler.unbounded.tokenize ("(" ++ text ++ ")") = .ok [⟨.group, "(" ++ text ++ ")"⟩] ↔
        Balanced text.toList) ∧
      classify ⟨.group, "(" ++ text ++ ")"⟩ = .group text := by
  have hchars : ("(" ++ text ++ ")").toList = grouped text.toList := by simp [grouped, Text.enclose]
  have hgroup : (⟨.group, "(" ++ text ++ ")"⟩ : Token) = groupToken text.toList := by
    rw [groupToken, ← hchars, String.ofList_toList]
  rw [hgroup, Compiler.tokenize, hchars]
  refine ⟨⟨fun h => ?_, tokenize_grouped⟩, ?_⟩
  · -- Behind the opening bracket the scan has one bracket around what is left of the text.
    obtain ⟨more, htokens, hmore⟩ := Scan.tokensFrom_cons_ok (s := .start) h
    have hinside : (Scan.start.read '(').2.depth = 1 + 0 := rfl
    obtain rfl : [groupToken text.toList] = more := htokens
    refine Scan.openAfter?_of_tokensFrom hinside hmore ?_
    rw [groupToken, Token.chars, String.toList_ofList]
    rfl
  · simp only [classify, contents?_groupToken, String.ofList_toList]

end Query

end TrackSearch
