import TrackSearch.Proofs.BracketedText
import TrackSearch.Query.Mark

/-! The tokens of a query hold its text, less what `isRemoved` says. While a token is read nothing is known
of the blanks in it: whether they are kept is settled by what stands before the first one and behind the
last one, which are the two ends of the induction. -/

namespace TrackSearch.Query

namespace Mark

variable {m : Mark}

theorem isEscape_iff :
    m.isEscape = true ↔ m.char = '\\' ∧ m.place.escaped = false ∧ m.place.depth = 0 := by
  simp [isEscape, and_assoc]

theorem isSeparator_iff : m.isSeparator = true ↔ Text.isBlank m.char = true ∧
    m.place.escaped = false ∧ m.place.quoted = false ∧ m.place.depth = 0 := by
  simp [isSeparator, and_assoc]

theorem isClosing_iff : m.isClosing = true ↔ m.place.escaped = false ∧
    (m.char = '"' ∧ m.place.quoted = true ∧ m.place.depth = 0 ∨ m.char = ')' ∧ m.place.depth = 1) := by
  simp [isClosing, and_assoc]

theorem isTakenBlank_iff : m.isTakenBlank = true ↔
    Text.isBlank m.char = true ∧ m.place.escaped = true ∧ m.place.depth = 0 := by
  simp [isTakenBlank, and_assoc]

theorem spellsBlank_of_isEscape (h : m.isEscape = true) : m.spellsBlank = true := by
  rw [spellsBlank, h, Bool.true_or]

theorem spellsBlank_of_isSeparator (h : m.isSeparator = true) : m.spellsBlank = false := by
  obtain ⟨hblank, hescaped, -, -⟩ := isSeparator_iff.1 h
  have hslash : m.char ≠ '\\' := Text.ne_of_isBlank hblank rfl
  simp [spellsBlank, isEscape, isTakenBlank, hslash, hescaped]

theorem spellsBlank_of_isClosing (h : m.isClosing = true) : m.spellsBlank = false := by
  obtain ⟨hescaped, ⟨hquote, -⟩ | ⟨hclose, -⟩⟩ := isClosing_iff.1 h
  · simp [spellsBlank, isEscape, isTakenBlank, hquote, hescaped]
  · simp [spellsBlank, isEscape, isTakenBlank, hclose, hescaped]

theorem isSeparator_of_isClosing (h : m.isClosing = true) : m.isSeparator = false := by
  obtain ⟨-, ⟨hquote, -⟩ | ⟨hclose, -⟩⟩ := isClosing_iff.1 h
  · simp [isSeparator, hquote, Text.isBlank]
  · simp [isSeparator, hclose, Text.isBlank]

theorem allBlank_of_isTakenBlank (h : m.isTakenBlank = true) (cs : List Char) :
    Text.allBlank (m.char :: cs) = Text.allBlank cs := by
  rw [Text.allBlank_cons, (isTakenBlank_iff.1 h).1, Bool.true_and]

end Mark

section Removed

variable {m : Mark} {before after : List Mark}

theorem isRemoved_of_isEscape (h : m.isEscape = true) : isRemoved before m after = true := by
  simp [isRemoved, h]

theorem isRemoved_of_isSeparator (h : m.isSeparator = true) : isRemoved before m after = true := by
  simp [isRemoved, h]

theorem isRemoved_of_isClosing (h : m.isClosing = true) : isRemoved before m after = false := by
  have hspells := Mark.spellsBlank_of_isClosing h
  rw [Mark.spellsBlank, Bool.or_eq_false_iff] at hspells
  simp [isRemoved, hspells, Mark.isSeparator_of_isClosing h]

end Removed

theorem blankSoFar_cons (m : Mark) (before : List Mark) :
    blankSoFar (m :: before) =
      if m.spellsBlank then blankSoFar before else m.isSeparator || m.isClosing := by
  rw [blankSoFar, List.dropWhile_cons]
  cases m.spellsBlank <;> rfl

theorem blankFromHere_cons (m : Mark) (after : List Mark) :
    blankFromHere (m :: after) = if m.spellsBlank then blankFromHere after else m.isSeparator := by
  rw [blankFromHere, List.dropWhile_cons]
  cases m.spellsBlank <;> rfl

namespace Scan

variable {s : Scan} {c : Char} {before : List Mark}

def place (s : Scan) : Place := ⟨s.escaped, s.inQuotes, s.depth⟩

theorem place_read (s : Scan) (c : Char) : (s.read c).2.place = s.place.next c := by
  unfold read readOutside readInside flush place Place.next
  repeat' split
  all_goals simp_all

inductive Reads (s : Scan) (m : Mark) : Prop
  | escape (mark : m.isEscape = true) (token : (s.read m.char).1 = none)
      (pending : (s.read m.char).2.pending = s.pending)
  | separator (mark : m.isSeparator = true) (token : (s.read m.char).1 = s.flush.1)
      (pending : (s.read m.char).2.pending = [])
  | closing (kind : TokenKind) (mark : m.isClosing = true)
      (token : (s.read m.char).1 = some ⟨kind, String.ofList (m.char :: s.pending).reverse⟩)
      (pending : (s.read m.char).2.pending = [])
  | text (escape : m.isEscape = false) (separator : m.isSeparator = false)
      (closing : m.isClosing = false) (token : (s.read m.char).1 = none)
      (pending : (s.read m.char).2.pending = m.char :: s.pending)

theorem reads_outside (hdepth : s.depth = 0) : s.Reads ⟨c, s.place⟩ := by
  cases hescaped : s.escaped with
  | true =>
    have hread := read_escaped (c := c) hdepth hescaped
    exact .text (by simp [Mark.isEscape, place, hescaped]) (by simp [Mark.isSeparator, place, hescaped])
      (by simp [Mark.isClosing, place, hescaped]) (by rw [hread]) (by rw [hread])
  | false =>
    by_cases hslash : c = '\\'
    · subst hslash
      have hread := read_backslash hdepth hescaped
      exact .escape (Mark.isEscape_iff.2 ⟨rfl, hescaped, hdepth⟩) (by rw [hread]) (by rw [hread])
    by_cases hquote : c = '"'
    · subst hquote
      cases hquotes : s.inQuotes with
      | true =>
        have hread := read_quote_close hdepth hescaped hquotes
        have hclosing := Mark.isClosing_iff (m := ⟨'"', s.place⟩)
        exact .closing .quoted (hclosing.2 ⟨hescaped, Or.inl ⟨rfl, hquotes, hdepth⟩⟩) (by rw [hread])
          (by rw [hread])
      | false =>
        have hread := read_quote_open hdepth hescaped hquotes
        exact .text rfl rfl (by simp [Mark.isClosing, place, hquotes]) (by rw [hread]) (by rw [hread])
    have hescape : Mark.isEscape ⟨c, s.place⟩ = false := by simp [Mark.isEscape, hslash]
    have hclosing : Mark.isClosing ⟨c, s.place⟩ = false := by
      simp [Mark.isClosing, place, hquote, hdepth]
    cases hquotes : s.inQuotes with
    | true =>
      have hread := read_ordinary hdepth hescaped hslash hquote (Or.inl hquotes)
      exact .text hescape (by simp [Mark.isSeparator, place, hquotes]) hclosing (by rw [hread])
        (by rw [hread])
    | false =>
      by_cases hopen : c = '('
      · subst hopen
        have hread := read_bracket hdepth hescaped hquotes
        exact .text hescape rfl hclosing (by rw [hread]) (by rw [hread])
      cases hblank : Text.isBlank c with
      | true =>
        have hread := read_blank hdepth hescaped hquotes hblank
        exact .separator (Mark.isSeparator_iff.2 ⟨hblank, hescaped, hquotes, hdepth⟩) (by rw [hread])
          (by rw [hread]; rfl)
      | false =>
        have hread := read_ordinary hdepth hescaped hslash hquote (Or.inr ⟨hopen, hblank⟩)
        exact .text hescape (by simp [Mark.isSeparator, hblank]) hclosing (by rw [hread]) (by rw [hread])

theorem reads_inside (hdepth : s.depth ≠ 0) : s.Reads ⟨c, s.place⟩ := by
  by_cases hafter : (s.read c).2.depth = 0
  · obtain ⟨hescaped, hone, hclose, hread⟩ := read_closing hdepth hafter
    exact .closing _ (Mark.isClosing_iff.2 ⟨hescaped, Or.inr ⟨hclose, hone⟩⟩) (by rw [hread])
      (by rw [hread])
  · obtain ⟨htoken, hpending, -, -⟩ := read_staying hdepth hafter
    refine .text ?_ ?_ ?_ htoken hpending
    · simp [Mark.isEscape, place, hdepth]
    · simp [Mark.isSeparator, place, hdepth]
    · -- A bracket that closes the outermost one would not stay inside.
      refine Bool.eq_false_iff.2 fun hclosing => hafter ?_
      obtain ⟨hescaped, ⟨-, -, hzero⟩ | ⟨hclose, hone⟩⟩ := Mark.isClosing_iff.1 hclosing
      · exact absurd hzero hdepth
      · obtain rfl : c = ')' := hclose
        rw [read_outermost_close hone hescaped]

theorem reads (s : Scan) (c : Char) : s.Reads ⟨c, s.place⟩ := by
  by_cases hdepth : s.depth = 0
  · exact reads_outside hdepth
  · exact reads_inside hdepth

def Apart (s : Scan) : Prop := s.depth ≠ 0 → s.inQuotes = false

theorem apart_start : start.Apart := fun h => absurd rfl h

theorem Apart.read (h : s.Apart) (c : Char) : (s.read c).2.Apart := by
  intro hafter
  by_cases hbefore : s.depth = 0
  · obtain ⟨-, hquotes, -, hread⟩ := read_opening hbefore hafter
    rw [hread]
    exact hquotes
  · rw [(read_staying hbefore hafter).2.2.2]
    exact h hbefore

theorem eq_between (hpending : s.pending = []) (hescaped : s.escaped = false)
    (hquotes : s.inQuotes = false) (hdepth : s.depth = 0) : s = between s.leads := by
  obtain ⟨pending, escaped, inQuotes, depth, leads⟩ := s
  subst hpending hescaped hquotes hdepth
  rfl

theorem Apart.read_ending (h : s.Apart)
    (hmark : Mark.isSeparator ⟨c, s.place⟩ = true ∨ Mark.isClosing ⟨c, s.place⟩ = true) :
    (s.read c).2 = between s.leads := by
  rcases hmark with hseparator | hclosing
  · obtain ⟨hblank, hescaped, hquotes, hdepth⟩ := Mark.isSeparator_iff.1 hseparator
    rw [read_blank hdepth hescaped hquotes hblank]
    exact eq_between rfl hescaped hquotes hdepth
  · obtain ⟨hescaped, ⟨hquote, hquotes, hdepth⟩ | ⟨hclose, hone⟩⟩ := Mark.isClosing_iff.1 hclosing
    · obtain rfl : c = '"' := hquote
      rw [read_quote_close hdepth hescaped hquotes]
      exact eq_between rfl hescaped rfl hdepth
    · obtain rfl : c = ')' := hclose
      have hone' : s.depth = 1 := hone
      rw [read_outermost_close hone hescaped]
      exact eq_between rfl hescaped (h (by omega)) rfl

/-- Between two characters of a query: the pending text is blank just where the marks say so, which is
never between quotes or brackets. -/
structure Traces (s : Scan) (before : List Mark) : Prop where
  blank : Text.allBlank s.pending = blankSoFar before
  opened : s.inQuotes = true ∨ s.depth ≠ 0 → Text.allBlank s.pending = false
  apart : s.Apart

theorem traces_start : start.Traces [] := ⟨rfl, by simp [start], apart_start⟩

theorem Traces.allBlank_cons (h : s.Traces before) (hseparator : Mark.isSeparator ⟨c, s.place⟩ = false)
    (htaken : Mark.isTakenBlank ⟨c, s.place⟩ = false) : Text.allBlank (c :: s.pending) = false := by
  rw [Text.allBlank_cons, Bool.and_eq_false_imp]
  intro hblank
  refine h.opened ?_
  simp only [Mark.isSeparator, Mark.isTakenBlank, place, hblank, Bool.true_and] at hseparator htaken
  cases hescaped : s.escaped <;> cases hquotes : s.inQuotes <;> simp_all

theorem Traces.opened_read (h : s.Traces before)
    (hopen : (s.read c).2.inQuotes = true ∨ (s.read c).2.depth ≠ 0) :
    Text.allBlank (s.read c).2.pending = false := by
  cases s.reads c with
  | escape mark token pending =>
    obtain ⟨hslash, hescaped, hdepth⟩ := Mark.isEscape_iff.1 mark
    obtain rfl : c = '\\' := hslash
    rw [read_backslash hdepth hescaped] at hopen ⊢
    exact h.opened hopen
  | separator mark token pending =>
    rw [h.apart.read_ending (Or.inl mark)] at hopen
    simp [between] at hopen
  | closing kind mark token pending =>
    rw [h.apart.read_ending (Or.inr mark)] at hopen
    simp [between] at hopen
  | text escape separator closing token pending =>
    rw [pending]
    cases htaken : Mark.isTakenBlank ⟨c, s.place⟩ with
    | false => exact h.allBlank_cons separator htaken
    | true =>
      obtain ⟨-, hescaped, hdepth⟩ := Mark.isTakenBlank_iff.1 htaken
      rw [read_escaped hdepth hescaped] at hopen
      exact (Mark.allBlank_of_isTakenBlank htaken s.pending).trans (h.opened hopen)

theorem Traces.read (h : s.Traces before) (c : Char) : (s.read c).2.Traces (⟨c, s.place⟩ :: before) := by
  refine ⟨?_, h.opened_read, h.apart.read c⟩
  rw [blankSoFar_cons]
  cases s.reads c with
  | escape mark token pending =>
    rw [if_pos (Mark.spellsBlank_of_isEscape mark), pending, h.blank]
  | separator mark token pending =>
    rw [pending, Mark.spellsBlank_of_isSeparator mark, mark]
    rfl
  | closing kind mark token pending =>
    rw [pending, Mark.spellsBlank_of_isClosing mark, mark, Bool.or_true]
    rfl
  | text escape separator closing token pending =>
    rw [pending, Mark.spellsBlank, escape, separator, closing, Bool.false_or]
    cases htaken : Mark.isTakenBlank ⟨c, s.place⟩ with
    | true =>
      rw [if_pos rfl, ← h.blank]
      exact Mark.allBlank_of_isTakenBlank htaken s.pending
    | false => exact h.allBlank_cons separator htaken

theorem chars_flush (s : Scan) :
    s.flush.1.toList.flatMap Token.chars = if Text.allBlank s.pending then [] else s.pending.reverse := by
  unfold flush
  split <;> simp [Token.chars, text]

/-- What the tokens from here on hold: the pending text, unless it is a word of nothing but blanks by the
time that it ends, and then the characters that are kept. -/
theorem Traces.chars_tokensFrom {limit : Option Nat} {cs : List Char} {tokens : List Token}
    (h : s.Traces before) (htokens : s.tokensFrom limit cs = .ok tokens) :
    tokens.flatMap Token.chars =
      (if Text.allBlank s.pending && blankFromHere (marks s.place cs) then [] else s.pending.reverse) ++
        keptFrom before (marks s.place cs) := by
  induction cs generalizing s before tokens with
  | nil =>
    rw [(tokensFrom_nil_ok htokens).2, chars_flush]
    simp [marks, keptFrom, blankFromHere]
  | cons c cs ih =>
    obtain ⟨more, rfl, hmore⟩ := tokensFrom_cons_ok htokens
    have hrest := ih (h.read c) hmore
    rw [place_read] at hrest
    rw [List.flatMap_append, hrest, marks, keptFrom, blankFromHere_cons]
    generalize marks (s.place.next c) cs = after
    cases s.reads c with
    | escape mark token pending =>
      rw [token, pending, if_pos (Mark.spellsBlank_of_isEscape mark), if_pos (isRemoved_of_isEscape mark)]
      rfl
    | separator mark token pending =>
      rw [token, pending, chars_flush, Mark.spellsBlank_of_isSeparator mark, mark,
        if_pos (isRemoved_of_isSeparator mark)]
      simp
    | closing kind mark token pending =>
      rw [token, pending, Mark.spellsBlank_of_isClosing mark, Mark.isSeparator_of_isClosing mark,
        isRemoved_of_isClosing mark]
      simp [Token.chars]
    | text escape separator closing token pending =>
      have hspells : Mark.spellsBlank ⟨c, s.place⟩ = Mark.isTakenBlank ⟨c, s.place⟩ := by
        rw [Mark.spellsBlank, escape, Bool.false_or]
      rw [token, pending, hspells, separator, isRemoved, escape, separator]
      cases htaken : Mark.isTakenBlank ⟨c, s.place⟩ with
      | false =>
        rw [h.allBlank_cons separator htaken]
        simp
      | true =>
        rw [Mark.allBlank_of_isTakenBlank htaken, h.blank, Bool.false_or, Bool.false_or, Bool.true_and, if_pos rfl]
        cases blankSoFar before && blankFromHere after <;> simp

theorem place_readAll {limit : Option Nat} {last : Scan} {cs : List Char} {tokens : List Token}
    (h : s.readAll limit cs = .ok (tokens, last)) : last.place = s.place.behind cs := by
  induction cs generalizing s tokens with
  | nil =>
    rw [(readAll_nil_ok h).2]
    rfl
  | cons c cs ih =>
    obtain ⟨rest, -, -, hrest⟩ := readAll_cons_ok h
    rw [ih hrest, place_read]
    rfl

end Scan

theorem mem_tokens_of_balanced {limit : Option Nat} {before inside after : List Char}
    {tokens : List Token} (h : tokenize limit (before ++ '(' :: (inside ++ ')' :: after)) = .ok tokens)
    (hplace : Place.start.behind before = .start) (hinside : Balanced inside) :
    ∃ first s, Scan.start.readAll none before = .ok (first, s) ∧
      ⟨if s.pending.isEmpty then .group else .word,
        String.ofList (s.pending.reverse ++ grouped inside)⟩ ∈ tokens := by
  obtain ⟨read, last, hread, -, -, rfl⟩ := tokenize_ok (tokenize_none_of_tokenize h)
  obtain ⟨first, s, more, hbefore, hmore, rfl⟩ := Scan.readAll_append_ok hread
  have hs : s.place = Place.start := (Scan.place_readAll hbefore).trans hplace
  have hgroup := Scan.readAll_grouped (congrArg Place.escaped hs) (congrArg Place.quoted hs)
    (congrArg Place.depth hs) hinside
  have hsplit : s.readAll none (grouped inside ++ after) = .ok (more, last) := by
    simpa [grouped, Text.enclose] using hmore
  obtain ⟨own, middle, rest, hown, -, rfl⟩ := Scan.readAll_append_ok hsplit
  rw [hgroup, Except.ok.injEq, Prod.mk.injEq] at hown
  obtain ⟨rfl, -⟩ := hown
  exact ⟨first, s, hbefore, List.mem_append_left _ (List.mem_append_right _ List.mem_cons_self)⟩

theorem exists_token_of_balanced {limit : Option Nat} {before inside after : List Char}
    {tokens : List Token} (h : tokenize limit (before ++ '(' :: (inside ++ ')' :: after)) = .ok tokens)
    (hplace : Place.start.behind before = .start) (hinside : Balanced inside) :
    ∃ token ∈ tokens, grouped inside <:+ token.chars := by
  obtain ⟨_, _, -, hmem⟩ := mem_tokens_of_balanced h hplace hinside
  refine ⟨_, hmem, ?_⟩
  rw [Token.chars, String.toList_ofList]
  exact List.suffix_append _ _

/-- The tokens of a query hold its characters in order, less those that are removed, and hold all that
stands between brackets. No group has blanks at its ends that it could lose. -/
theorem tokens_hold_kept_chars {compiler : Compiler} {query : String} {tokens : List Token}
    (h : compiler.tokenize query = .ok tokens) :
    tokens.flatMap Token.chars = keptChars query.toList ∧
      (∀ before inside after, query.toList = before ++ '(' :: (inside ++ ')' :: after) →
        Place.start.behind before = .start → Balanced inside →
          ∃ token ∈ tokens, grouped inside <:+ token.chars) ∧
      ∀ token ∈ tokens, token.kind = .group → Text.trim token.chars = token.chars := by
  refine ⟨?_, ?_, fun token hmem hkind => trim_group h hmem hkind⟩
  · have htokens : Scan.start.tokensFrom compiler.maxDepth query.toList = .ok tokens := h
    rw [Scan.traces_start.chars_tokensFrom htokens]
    simp [Scan.start, keptChars, Scan.place, Place.start]
  · intro before inside after hquery hplace hinside
    rw [Compiler.tokenize, hquery] at h
    exact exists_token_of_balanced h hplace hinside

theorem tokens_hold_kept_chars_blank_word :
    (Compiler.mk (some 1)).tokenize "\\ \\\t a\\ b( \"\\) )\"\\ \"\\" =
        .ok [⟨.word, "a b( \"\\) )"⟩, ⟨.quoted, "\" \""⟩] ∧
      keptChars "\\ \\\t a\\ b( \"\\) )\"\\ \"\\".toList = "a b( \"\\) )\" \"".toList ∧
      ∃ token ∈ [⟨.word, "a b( \"\\) )"⟩, ⟨.quoted, "\" \""⟩],
        grouped " \"\\) ".toList <:+ Token.chars token := by
  have htokens : (Compiler.mk (some 1)).tokenize "\\ \\\t a\\ b( \"\\) )\"\\ \"\\" =
      .ok [⟨.word, "a b( \"\\) )"⟩, ⟨.quoted, "\" \""⟩] := rfl
  obtain ⟨hkept, hgroups, -⟩ := tokens_hold_kept_chars htokens
  exact ⟨htokens, hkept.symm, hgroups "\\ \\\t a\\ b".toList " \"\\) ".toList "\"\\ \"\\".toList rfl
    (by decide) (by decide)⟩

end TrackSearch.Query
