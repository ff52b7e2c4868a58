import Mathlib.Data.List.Induction
import TrackSearch.Proofs.KeptText

/-! Where the tokens of a text stand in it. What is pending behind a part of the text can be read off that
part, and so can the bracket that is open there; a token is what is pending where it ends, and what ends it. -/

namespace TrackSearch.Query

theorem Mark.ends_of_isEscape {m : Mark} (h : m.isEscape = true) : (m.isSeparator || m.isClosing) = false := by
  obtain ⟨hslash, -, -⟩ := isEscape_iff.1 h
  simp [isSeparator, isClosing, hslash, Text.isBlank]

namespace Place

variable {p : Place} {c : Char}

theorem behind_concat (p : Place) (cs : List Char) (c : Char) :
    p.behind (cs ++ [c]) = (p.behind cs).next c := by
  rw [behind, List.foldl_append]
  rfl

theorem escaped_next (p : Place) (c : Char) : (p.next c).escaped = (!p.escaped && c == '\\') := by
  unfold next
  repeat' split
  all_goals simp_all

theorem isClosing_of_next (hbefore : p.depth ≠ 0) (hafter : (p.next c).depth = 0) :
    Mark.isClosing ⟨c, p⟩ = true := by
  rw [Mark.isClosing_iff]
  unfold next at hafter
  repeat' split at hafter
  all_goals simp_all
  all_goals omega

end Place

theorem marks_concat (p : Place) (cs : List Char) (c : Char) :
    marks p (cs ++ [c]) = marks p cs ++ [⟨c, p.behind cs⟩] := by
  induction cs generalizing p with
  | nil => rfl
  | cons d cs ih => rw [List.cons_append, marks, marks, ih, List.cons_append]; rfl

theorem openText_concat (cs : List Char) (c : Char) {m : Mark} (hm : m = ⟨c, Place.start.behind cs⟩) :
    openText (cs ++ [c]) =
      if m.isSeparator || m.isClosing then []
      else if m.isEscape then openText cs
      else openText cs ++ [c] := by
  have hchar : m.char = c := by rw [hm]
  simp only [openText, marks_concat, List.reverse_append, List.reverse_singleton, List.singleton_append,
    List.takeWhile_cons, ← hm]
  cases hseparator : m.isSeparator with
  | true => rfl
  | false =>
    cases hclosing : m.isClosing with
    | true => rfl
    | false => cases hescape : m.isEscape <;> simp [hescape, hchar]

/-- `inside` stands in the text between a bracket outside quotes and brackets, with `before` in front of it,
and the one that matches it. -/
structure Brackets (text before inside : List Char) : Prop where
  split : ∃ after, text = before ++ '(' :: (inside ++ ')' :: after)
  place : Place.start.behind before = .start
  balanced : Balanced inside

def bracketToken (before inside : List Char) : Token :=
  ⟨if (openText before).isEmpty then .group else .word, String.ofList (openText before ++ grouped inside)⟩

theorem chars_bracketToken (before inside : List Char) :
    (bracketToken before inside).chars = openText before ++ grouped inside := String.toList_ofList

theorem contents?_bracketToken (before inside : List Char) :
    (bracketToken before inside).contents? = if openText before = [] then some inside else none := by
  rw [Token.contents?, chars_bracketToken, bracketToken]
  by_cases hopen : openText before = []
  · simp [hopen, grouped, Text.between?_enclose]
  · simp [hopen]

namespace Scan

variable {limit : Option Nat} {s last : Scan} {c : Char} {cs text : List Char} {token : Token}
  {tokens : List Token}

theorem readAll_concat_ok (h : s.readAll limit (cs ++ [c]) = .ok (tokens, last)) :
    ∃ first middle, s.readAll limit cs = .ok (first, middle) ∧ last = (middle.read c).2 := by
  obtain ⟨first, middle, more, hfirst, hmore, -⟩ := readAll_append_ok h
  obtain ⟨rest, -, -, hrest⟩ := readAll_cons_ok hmore
  exact ⟨first, middle, hfirst, (readAll_nil_ok hrest).2⟩

/-- A bracket is open behind a text: `before` stands in front of the outermost one and `inside` behind it,
with `level` brackets of its own open. -/
structure Opens (s : Scan) (cs before inside : List Char) (level : Nat) : Prop where
  split : cs = before ++ '(' :: inside
  place : Place.start.behind before = .start
  leads : s.leads = (openText before).isEmpty
  text : openText cs = openText before ++ '(' :: inside
  depth : s.depth = 1 + level
  count : ∀ more, openAfter? 0 false (inside ++ more) = openAfter? level s.escaped more

structure Behind (s : Scan) (cs : List Char) : Prop where
  place : s.place = Place.start.behind cs
  pending : s.pending.reverse = openText cs
  opened : s.depth ≠ 0 → ∃ before inside level, s.Opens cs before inside level

theorem behind_start : start.Behind [] := ⟨rfl, rfl, fun h => absurd rfl h⟩

theorem Behind.pending_read (h : s.Behind cs) (c : Char) :
    (s.read c).2.pending.reverse = openText (cs ++ [c]) := by
  rw [openText_concat cs c (m := ⟨c, s.place⟩) (by rw [h.place])]
  cases s.reads c with
  | escape mark token pending =>
    rw [Mark.ends_of_isEscape mark, mark, pending, h.pending]
    rfl
  | separator mark token pending => simp [pending, mark]
  | closing kind mark token pending => simp [pending, mark]
  | text escape separator closing token pending =>
    simp [pending, escape, separator, closing, h.pending]

theorem Behind.read (h : s.Behind cs) (c : Char) : (s.read c).2.Behind (cs ++ [c]) := by
  refine ⟨?_, h.pending_read c, fun hafter => ?_⟩
  · rw [place_read, h.place, Place.behind_concat]
  have htext := h.pending_read c
  by_cases hbefore : s.depth = 0
  · -- The bracket has just been read, and nothing of what stands behind it.
    obtain ⟨hescaped, hquotes, rfl, hread⟩ := read_opening hbefore hafter
    have hplace : Place.start.behind cs = .start := by
      rw [← h.place, Scan.place, hescaped, hquotes, hbefore]
      rfl
    rw [hread] at htext ⊢
    refine ⟨cs, [], 0, ⟨rfl, hplace, ?_, ?_, rfl, fun more => ?_⟩⟩
    · simp [← h.pending]
    · rw [← htext, List.reverse_cons, h.pending]
    · rw [List.nil_append, hescaped]
  · obtain ⟨before, inside, level, hopen⟩ := h.opened hbefore
    obtain ⟨-, hpending, hleads, -⟩ := read_staying hbefore hafter
    have hbelow : ¬(s.escaped = false ∧ c = ')' ∧ level = 0) := by
      rintro ⟨hescaped, rfl, rfl⟩
      exact hafter (by rw [read_outermost_close hopen.depth hescaped])
    have hdepth := depth_read_around Nat.one_ne_zero hopen.depth hbelow
    refine ⟨before, inside ++ [c], _,
      ⟨?_, hopen.place, hleads.trans hopen.leads, ?_, hdepth, fun more => ?_⟩⟩
    · rw [hopen.split, List.append_assoc, List.cons_append]
    · rw [← htext, hpending, List.reverse_cons, h.pending, hopen.text, List.append_assoc, List.cons_append]
    · rw [List.append_assoc, List.singleton_append, hopen.count, openAfter?_cons, if_neg hbelow, escaped_read]

theorem behind_readAll (h : start.readAll limit cs = .ok (tokens, last)) : last.Behind cs := by
  induction cs using List.reverseRecOn generalizing tokens last with
  | nil =>
    rw [(readAll_nil_ok h).2]
    exact behind_start
  | append_singleton cs c ih =>
    obtain ⟨first, middle, hfirst, rfl⟩ := readAll_concat_ok h
    exact (ih hfirst).read c

theorem exists_read_of_mem (h : s.readAll limit cs = .ok (tokens, last)) (hmem : token ∈ tokens) :
    ∃ before c after first middle, cs = before ++ c :: after ∧
      s.readAll limit before = .ok (first, middle) ∧ (middle.read c).1 = some token := by
  induction cs generalizing s tokens with
  | nil =>
    rw [(readAll_nil_ok h).1] at hmem
    contradiction
  | cons c cs ih =>
    obtain ⟨rest, rfl, hlimit, hrest⟩ := readAll_cons_ok h
    rcases List.mem_append.1 hmem with hhere | hlater
    · exact ⟨[], c, cs, [], s, rfl, rfl, Option.mem_toList.1 hhere⟩
    · obtain ⟨before, d, after, first, middle, rfl, hfirst, hread⟩ := ih hrest hlater
      exact ⟨c :: before, d, after, _, middle, rfl, readAll_cons rfl hlimit hfirst, hread⟩

end Scan

/-- Where a token stands: outside brackets it is what is open behind a part of the text, with the quote that
ends it if it is quoted; or it ends with brackets. -/
inductive Token.StandsIn (text : List Char) : Token → Prop
  | outside {kind : TokenKind} {before ending : List Char} : kind ≠ .group → before <+: text →
      (Place.start.behind before).depth = 0 → ending = [] ∨ ending = ['"'] →
      StandsIn text ⟨kind, String.ofList (openText before ++ ending)⟩
  | bracketed {before inside : List Char} : Brackets text before inside →
      StandsIn text (bracketToken before inside)

section

variable {limit : Option Nat} {s : Scan} {before inside text : List Char} {c : Char} {token : Token}
  {tokens : List Token}

namespace Scan.Behind

theorem standsIn_of_flush (h : s.Behind before) (hbefore : before <+: text) (hdepth : s.depth = 0)
    (htoken : s.flush.1 = some token) : token.StandsIn text := by
  have hplace : (Place.start.behind before).depth = 0 := h.place ▸ hdepth
  unfold flush at htoken
  split at htoken
  · contradiction
  · rw [← Option.some.inj htoken, Scan.text, h.pending, ← List.append_nil (openText before)]
    exact .outside (by decide) hbefore hplace (Or.inl rfl)

theorem standsIn_of_close (h : s.Behind before) (hbefore : before ++ [')'] <+: text) (hone : s.depth = 1)
    (hescaped : s.escaped = false) (htoken : (s.read ')').1 = some token) : token.StandsIn text := by
  obtain ⟨first, inside, level, hopen⟩ := h.opened (by omega)
  obtain rfl : level = 0 := by
    have := hopen.depth
    omega
  have hinside : Balanced inside := by
    have hcount := hopen.count []
    rwa [List.append_nil, hescaped] at hcount
  obtain ⟨after, rfl⟩ := hbefore
  have hbrackets : Brackets (before ++ [')'] ++ after) first inside :=
    ⟨⟨after, by simp [hopen.split]⟩, hopen.place, hinside⟩
  have hchars : (')' :: s.pending).reverse = openText first ++ grouped inside := by
    rw [List.reverse_cons, h.pending, hopen.text, List.append_assoc, List.cons_append]
    rfl
  rw [read_outermost_close hone hescaped] at htoken
  rw [← Option.some.inj htoken, hchars, hopen.leads]
  exact .bracketed hbrackets

theorem standsIn_of_read (h : s.Behind before) (hbefore : before ++ [c] <+: text)
    (htoken : (s.read c).1 = some token) : token.StandsIn text := by
  have hprefix : before <+: text := (List.prefix_append before [c]).trans hbefore
  cases s.reads c with
  | escape mark none pending => simp [none] at htoken
  | separator mark flushed pending =>
    obtain ⟨-, -, -, hdepth⟩ := Mark.isSeparator_iff.1 mark
    exact h.standsIn_of_flush hprefix hdepth (flushed ▸ htoken)
  | closing kind mark ended pending =>
    obtain ⟨hescaped, ⟨hquote, hquotes, hdepth⟩ | ⟨hclose, hone⟩⟩ := Mark.isClosing_iff.1 mark
    · obtain rfl : c = '"' := hquote
      rw [read_quote_close hdepth hescaped hquotes] at htoken
      rw [← Option.some.inj htoken, List.reverse_cons, h.pending]
      exact .outside (by decide) hprefix (h.place ▸ hdepth) (Or.inr rfl)
    · obtain rfl : c = ')' := hclose
      exact h.standsIn_of_close hbefore hone hescaped htoken
  | text escape separator closing none pending => simp [none] at htoken

end Scan.Behind

theorem standsIn_of_tokenize (h : tokenize limit text = .ok tokens) (hmem : token ∈ tokens) :
    token.StandsIn text := by
  obtain ⟨read, last, hread, -, hdepth, rfl⟩ := tokenize_ok h
  rcases List.mem_append.1 hmem with hhere | hflush
  · obtain ⟨before, c, after, first, middle, rfl, hfirst, htoken⟩ := Scan.exists_read_of_mem hread hhere
    refine (Scan.behind_readAll hfirst).standsIn_of_read ⟨after, ?_⟩ htoken
    rw [List.append_assoc, List.singleton_append]
  · exact (Scan.behind_readAll hread).standsIn_of_flush List.prefix_rfl hdepth (Option.mem_toList.1 hflush)

theorem bracketToken_mem (h : tokenize limit text = .ok tokens) (hbrackets : Brackets text before inside) :
    bracketToken before inside ∈ tokens := by
  obtain ⟨⟨after, rfl⟩, hplace, hinside⟩ := hbrackets
  obtain ⟨first, s, hread, hmem⟩ := mem_tokens_of_balanced h hplace hinside
  have hpending := (Scan.behind_readAll hread).pending
  have hempty : s.pending.isEmpty = (openText before).isEmpty := by
    rw [← hpending, List.isEmpty_reverse]
  rw [hpending, hempty] at hmem
  exact hmem

end

end TrackSearch.Query
