import TrackSearch.Proofs.TokenOrigin

/-! What is open between two characters of a query, and what its tokens look like for it. Quotes and brackets
are never open together, so that at the end at most one of them is wrong. The text of an open quote or
bracket holds the character that opened it, which is what makes quoted tokens and groups come out whole. -/

namespace TrackSearch.Query

theorem openThroughout_grouped {cs : List Char} (h : Balanced cs) : OpenThroughout (grouped cs) := by
  have hopening : ∀ part, withoutEscapes false ('(' :: part) = '(' :: withoutEscapes false part :=
    fun _ => rfl
  refine ⟨fun part hpart hne hproper => ?_, ?_⟩
  · obtain ⟨first, rfl, hfirst⟩ := (List.prefix_cons_iff.1 hpart).resolve_left hne
    have hinside : first <+: cs := by
      refine (List.prefix_concat_iff.1 hfirst).resolve_left fun hwhole => hproper ?_
      rw [hwhole]
      rfl
    obtain ⟨second, rfl⟩ := hinside
    obtain ⟨middle, -, hcount⟩ := exists_depth_of_openAfter? h
    simp only [openings, closings, hopening, List.count_cons_self, List.count_cons_of_ne, ne_eq,
      Char.reduceEq, not_false_eq_true]
    omega
  · have hends := endsInBackslash_of_openAfter? h
    have hwhole : withoutEscapes false (grouped cs) = '(' :: (withoutEscapes false cs ++ [')']) := by
      rw [grouped, Text.enclose, hopening, withoutEscapes_append, hends]
      rfl
    rw [Balanced, ← List.append_nil cs] at h
    obtain ⟨middle, hrest, hcount⟩ := exists_depth_of_openAfter? h
    rw [hends] at hrest
    obtain rfl : middle = 0 := Option.some.inj hrest
    simp [openings, closings, hwhole]
    omega

structure Token.Delimited (t : Token) : Prop where
  word : t.kind = .word → Text.allBlank t.chars = false
  quoted : t.kind = .quoted → ∃ before inside, t.chars = before ++ Text.enclose '"' '"' inside

namespace Scan

variable {limit : Option Nat} {s last : Scan} {c : Char} {cs : List Char} {token : Token}
  {tokens : List Token}

def finishBracketsFirst (s : Scan) : Except SyntaxError (Option Token) :=
  if s.depth ≠ 0 then .error .unclosedBracket
  else if s.inQuotes then .error .unclosedQuote
  else .ok s.flush.1

theorem Apart.finish_eq (h : s.Apart) : s.finish = s.finishBracketsFirst := by
  unfold finish finishBracketsFirst
  by_cases hdepth : s.depth = 0
  · simp [hdepth]
  · have hquotes := h hdepth
    simp [hdepth, hquotes]

structure Sound (limit : Option Nat) (s : Scan) : Prop where
  depth_le : ∀ n ∈ limit, s.depth ≤ n
  apart : s.Apart
  led : s.Led
  bracket_pending : s.depth ≠ 0 → s.pending ≠ []
  quote_pending : s.inQuotes = true → '"' ∈ s.pending

theorem sound_start (limit : Option Nat) : start.Sound limit where
  depth_le _ _ := Nat.zero_le _
  apart := apart_start
  led h := absurd rfl h
  bracket_pending h := absurd rfl h
  quote_pending h := by contradiction

theorem quoted_read (h : (s.read c).2.inQuotes = true) : s.inQuotes = true ∨ c = '"' := by
  have hplace : (s.place.next c).quoted = true := by
    rw [← place_read]
    exact h
  unfold Place.next at hplace
  repeat' split at hplace
  all_goals simp_all [place]

theorem bracket_pending_read (h : (s.read c).2.depth ≠ 0) : (s.read c).2.pending ≠ [] := by
  by_cases hbefore : s.depth = 0
  · obtain ⟨-, -, -, hread⟩ := read_opening hbefore h
    rw [hread]
    exact List.cons_ne_nil c s.pending
  · obtain ⟨-, hpending, -, -⟩ := read_staying hbefore h
    rw [hpending]
    exact List.cons_ne_nil c s.pending

theorem Sound.quote_pending_read (h : s.Sound limit) (hquotes : (s.read c).2.inQuotes = true) :
    '"' ∈ (s.read c).2.pending := by
  have hbefore := quoted_read hquotes
  cases s.reads c with
  | escape mark token pending =>
    obtain ⟨hslash, -, -⟩ := Mark.isEscape_iff.1 mark
    obtain rfl : c = '\\' := hslash
    rw [pending]
    exact h.quote_pending (hbefore.resolve_right (by decide))
  | separator mark token pending =>
    rw [h.apart.read_ending (Or.inl mark)] at hquotes
    contradiction
  | closing kind mark token pending =>
    rw [h.apart.read_ending (Or.inr mark)] at hquotes
    contradiction
  | text escape separator closing token pending =>
    rw [pending]
    rcases hbefore with hinside | rfl
    · exact List.mem_cons_of_mem c (h.quote_pending hinside)
    · exact List.mem_cons_self

theorem Sound.read (h : s.Sound limit) (hlimit : ∀ n ∈ limit, (s.read c).2.depth ≤ n) :
    (s.read c).2.Sound limit where
  depth_le := hlimit
  apart := h.apart.read c
  led := h.led.read
  bracket_pending := bracket_pending_read
  quote_pending := h.quote_pending_read

theorem delimited_flush (h : s.flush.1 = some token) : token.Delimited := by
  unfold flush at h
  split at h
  · contradiction
  · next hblank =>
    rw [← Option.some.inj h]
    refine ⟨fun _ => ?_, fun hkind => by contradiction⟩
    simpa [Token.chars, text, Text.allBlank] using hblank

theorem Sound.delimited_read (h : s.Sound limit) (htoken : (s.read c).1 = some token) :
    token.Delimited := by
  cases s.reads c with
  | escape mark none pending => simp [none] at htoken
  | separator mark flushed pending => exact delimited_flush (flushed ▸ htoken)
  | closing kind mark ended pending =>
    obtain ⟨hescaped, ⟨hquote, hquotes, hdepth⟩ | ⟨hclose, hone⟩⟩ := Mark.isClosing_iff.1 mark
    · obtain rfl : c = '"' := hquote
      rw [read_quote_close hdepth hescaped hquotes] at htoken
      obtain ⟨later, earlier, hpending⟩ := List.append_of_mem (h.quote_pending hquotes)
      rw [← Option.some.inj htoken]
      refine ⟨fun hkind => by contradiction, fun _ => ⟨earlier.reverse, later.reverse, ?_⟩⟩
      simp [Token.chars, hpending, Text.enclose]
    · obtain rfl : c = ')' := hclose
      rw [read_outermost_close hone hescaped] at htoken
      rw [← Option.some.inj htoken]
      refine ⟨fun _ => ?_, fun hkind => ?_⟩
      · simp [Token.chars, Text.allBlank, Text.isBlank]
      · cases hleads : s.leads <;> simp [hleads] at hkind
  | text escape separator closing none pending => simp [none] at htoken

theorem sound_readAll (h : start.readAll limit cs = .ok (tokens, last)) :
    last.Sound limit ∧ ∀ token ∈ tokens, token.Delimited :=
  readAll_invariant (fun _ _ _ hs hlimit => hs.read hlimit) (fun _ _ _ _ hs htoken => hs.delimited_read htoken)
    (sound_start limit) h

end Scan

section

variable {limit : Option Nat} {query : List Char} {tokens : List Token} {token : Token}

theorem delimited_of_tokenize (h : tokenize limit query = .ok tokens) (hmem : token ∈ tokens) :
    token.Delimited := by
  obtain ⟨read, last, hread, -, -, rfl⟩ := tokenize_ok h
  rcases List.mem_append.1 hmem with hhere | hflush
  · exact (Scan.sound_readAll hread).2 token hhere
  · exact Scan.delimited_flush (Option.mem_toList.1 hflush)

theorem balanced_of_tokenize (h : tokenize limit query = .ok tokens) (hmem : token ∈ tokens)
    (hkind : token.kind = .group) : ∃ inside, Balanced inside ∧ token = groupToken inside := by
  cases standsIn_of_tokenize h hmem with
  | outside hother _ _ _ => exact absurd hkind hother
  | @bracketed before inside hbrackets =>
    have hopen : openText before = [] := by
      cases hempty : (openText before).isEmpty with
      | true => exact List.isEmpty_iff.1 hempty
      | false => simp [bracketToken, hempty] at hkind
    refine ⟨inside, hbrackets.balanced, ?_⟩
    rw [bracketToken, hopen]
    rfl

theorem chars_ne_nil_of_tokenize (h : tokenize limit query = .ok tokens) (hmem : token ∈ tokens) :
    token.chars ≠ [] := by
  have hdelimited := delimited_of_tokenize h hmem
  cases hkind : token.kind with
  | word =>
    intro hempty
    have hword := hdelimited.word hkind
    rw [hempty] at hword
    contradiction
  | quoted =>
    obtain ⟨before, inside, hchars⟩ := hdelimited.quoted hkind
    rw [hchars]
    exact List.append_ne_nil_of_right_ne_nil before (List.cons_ne_nil _ _)
  | group =>
    obtain ⟨inside, -, rfl⟩ := balanced_of_tokenize h hmem hkind
    simp [groupToken, Token.chars, grouped, Text.enclose]

end

/-- In every state that the scan of a text reaches within the limit, quotes and brackets are not open
together, so that the checks at the end can be made in either order; no more brackets are open than the
limit allows; and what is pending in brackets starts with the first of them, if they make a group. So of
the tokens of a query the words are not blank, the quoted ones end in quotes, and the groups are in their
brackets from end to end: nothing is trimmed from them, and each stands for the text between its ends. -/
theorem states_sound_and_tokens_shaped (limit : Option Nat) :
    (∀ text tokens s, Scan.start.readAll limit text = .ok (tokens, s) →
      (s.inQuotes = true → s.depth = 0) ∧ s.finish = s.finishBracketsFirst ∧
        (∀ n ∈ limit, s.depth ≤ n) ∧
        (s.depth ≠ 0 → s.pending ≠ [] ∧ (s.leads = true → s.pending.reverse.head? = some '('))) ∧
      ∀ query tokens, tokenize limit query = .ok tokens → ∀ t ∈ tokens,
        (t.kind = .word → Text.allBlank t.chars = false) ∧
          (t.kind = .quoted → ∃ before inside, t.chars = before ++ Text.enclose '"' '"' inside) ∧
          (t.kind = .group → OpenThroughout t.chars ∧ Text.trim t.chars = t.chars ∧
            ∃ contents, t.text = "(" ++ contents ++ ")" ∧ classify t = .group contents) := by
  refine ⟨fun text tokens s hread => ?_, fun query tokens htokens t ht => ?_⟩
  · obtain ⟨hsound, -⟩ := Scan.sound_readAll hread
    refine ⟨fun hquotes => ?_, hsound.apart.finish_eq, hsound.depth_le, fun hdepth => ?_⟩
    · by_contra hdepth
      rw [hsound.apart hdepth] at hquotes
      contradiction
    · refine ⟨hsound.bracket_pending hdepth, fun hleads => ?_⟩
      obtain ⟨inside, hpending⟩ := hsound.led hdepth hleads
      rw [hpending, List.head?_cons]
  · have hdelimited := delimited_of_tokenize htokens ht
    refine ⟨hdelimited.word, hdelimited.quoted, fun hkind => ⟨?_, trim_group htokens ht hkind, ?_⟩⟩
    · obtain ⟨inside, hbalanced, rfl⟩ := balanced_of_tokenize htokens ht hkind
      rw [groupToken, Token.chars, String.toList_ofList]
      exact openThroughout_grouped hbalanced
    · obtain ⟨inside, -, rfl⟩ := balanced_of_tokenize htokens ht hkind
      refine ⟨String.ofList inside, ?_, ?_⟩
      · rw [groupToken, String.ext_iff]
        simp [grouped, Text.enclose]
      · rw [classify_eq_group_iff, contents?_groupToken, String.toList_ofList]

end TrackSearch.Query
