import TrackSearch.Query.Scan

/-! What one character can do to a scan: first the equations, one for each kind of character outside and
inside brackets, then what is known of a step from its ends. The backslash state runs alike in every scan
of a text, and a step either stays outside brackets, opens the outermost one, stays inside, or closes the
outermost one and ends a token. -/

namespace TrackSearch.Query.Scan

theorem read_of_outside {s : Scan} (h : s.depth = 0) (c : Char) : s.read c = s.readOutside c :=
  if_pos h

theorem read_of_inside {s : Scan} (h : s.depth ≠ 0) (c : Char) : s.read c = s.readInside c :=
  if_neg h

section Outside

variable {s : Scan} {c : Char}

theorem read_ordinary (hdepth : s.depth = 0) (hescaped : s.escaped = false) (hslash : c ≠ '\\')
    (hquote : c ≠ '"') (hword : s.inQuotes = true ∨ c ≠ '(' ∧ Text.isBlank c = false) :
    s.read c = (none, { s with pending := c :: s.pending }) := by
  rw [read_of_outside hdepth]
  rcases hword with hinside | ⟨hopen, hblank⟩
  · simp [readOutside, hescaped, hslash, hquote, hinside]
  · simp [readOutside, hescaped, hslash, hquote, hopen, hblank]

theorem read_backslash (hdepth : s.depth = 0) (hescaped : s.escaped = false) :
    s.read '\\' = (none, { s with escaped := true }) := by
  rw [read_of_outside hdepth]
  simp [readOutside, hescaped]

theorem read_escaped (hdepth : s.depth = 0) (hescaped : s.escaped = true) :
    s.read c = (none, { s with escaped := false, pending := c :: s.pending }) := by
  rw [read_of_outside hdepth]
  simp [readOutside, hescaped]

theorem read_quote_open (hdepth : s.depth = 0) (hescaped : s.escaped = false)
    (hquotes : s.inQuotes = false) :
    s.read '"' = (none, { s with pending := '"' :: s.pending, inQuotes := true }) := by
  rw [read_of_outside hdepth]
  simp [readOutside, hescaped, hquotes]

theorem read_quote_close (hdepth : s.depth = 0) (hescaped : s.escaped = false)
    (hquotes : s.inQuotes = true) :
    s.read '"' = (some ⟨.quoted, String.ofList ('"' :: s.pending).reverse⟩,
      { s with inQuotes := false, pending := [] }) := by
  rw [read_of_outside hdepth]
  simp [readOutside, hescaped, hquotes, text]

theorem read_bracket (hdepth : s.depth = 0) (hescaped : s.escaped = false)
    (hquotes : s.inQuotes = false) :
    s.read '(' =
      (none, { s with leads := s.pending.isEmpty, depth := 1, pending := '(' :: s.pending }) := by
  rw [read_of_outside hdepth]
  simp [readOutside, hescaped, hquotes]

theorem read_blank (hdepth : s.depth = 0) (hescaped : s.escaped = false)
    (hquotes : s.inQuotes = false) (hblank : Text.isBlank c = true) : s.read c = s.flush := by
  have hslash : c ≠ '\\' := Text.ne_of_isBlank hblank rfl
  have hquote : c ≠ '"' := Text.ne_of_isBlank hblank rfl
  have hopen : c ≠ '(' := Text.ne_of_isBlank hblank rfl
  rw [read_of_outside hdepth]
  simp [readOutside, hescaped, hquotes, hblank, hslash, hquote, hopen]

end Outside

section Inside

variable {s : Scan} {c : Char}

theorem read_inside_ordinary (hdepth : s.depth ≠ 0) (hescaped : s.escaped = false) (hslash : c ≠ '\\')
    (hopen : c ≠ '(') (hclose : c ≠ ')') : s.read c = (none, { s with pending := c :: s.pending }) := by
  rw [read_of_inside hdepth]
  simp [readInside, hescaped, hslash, hopen, hclose]

theorem read_inside_backslash (hdepth : s.depth ≠ 0) (hescaped : s.escaped = false) :
    s.read '\\' = (none, { s with pending := '\\' :: s.pending, escaped := true }) := by
  rw [read_of_inside hdepth]
  simp [readInside, hescaped]

theorem read_inside_escaped (hdepth : s.depth ≠ 0) (hescaped : s.escaped = true) :
    s.read c = (none, { s with pending := c :: s.pending, escaped := false }) := by
  rw [read_of_inside hdepth]
  simp [readInside, hescaped]

theorem read_inside_open (hdepth : s.depth ≠ 0) (hescaped : s.escaped = false) :
    s.read '(' = (none, { s with pending := '(' :: s.pending, depth := s.depth + 1 }) := by
  rw [read_of_inside hdepth]
  simp [readInside, hescaped]

theorem read_inside_close (hdepth : 1 < s.depth) (hescaped : s.escaped = false) :
    s.read ')' = (none, { s with pending := ')' :: s.pending, depth := s.depth - 1 }) := by
  rw [read_of_inside (Nat.ne_of_gt (Nat.zero_lt_of_lt hdepth))]
  simp [readInside, hescaped, Nat.ne_of_gt hdepth]

theorem read_outermost_close (hdepth : s.depth = 1) (hescaped : s.escaped = false) :
    s.read ')' = (some ⟨if s.leads then .group else .word, String.ofList (')' :: s.pending).reverse⟩,
      { s with depth := 0, pending := [] }) := by
  rw [read_of_inside (by omega)]
  simp [readInside, hescaped, hdepth, text]

end Inside

theorem escaped_readOutside (s : Scan) (c : Char) :
    (s.readOutside c).2.escaped = (!s.escaped && c == '\\') := by
  unfold readOutside flush
  repeat' split
  all_goals simp_all

theorem escaped_readInside (s : Scan) (c : Char) :
    (s.readInside c).2.escaped = (!s.escaped && c == '\\') := by
  unfold readInside
  repeat' split
  all_goals simp_all

theorem escaped_read (s : Scan) (c : Char) :
    (s.read c).2.escaped = (!s.escaped && c == '\\') := by
  unfold read
  split
  · exact s.escaped_readOutside c
  · exact s.escaped_readInside c

theorem depth_readInside (s : Scan) (c : Char) :
    (s.readInside c).2.depth =
      if s.escaped then s.depth
      else if c = '(' then s.depth + 1
      else if c = ')' then s.depth - 1
      else s.depth := by
  unfold readInside
  repeat' split
  all_goals simp_all

theorem depth_readOutside_le {s : Scan} (h : s.depth = 0) (c : Char) :
    (s.readOutside c).2.depth ≤ if s.escaped = false ∧ c = '(' then 1 else 0 := by
  unfold readOutside flush
  repeat' split
  all_goals simp_all

theorem depth_read_le (s : Scan) (c : Char) :
    (s.read c).2.depth ≤
      if s.escaped then s.depth
      else if c = '(' then s.depth + 1
      else if c = ')' then s.depth - 1
      else s.depth := by
  by_cases hdepth : s.depth = 0
  · rw [read_of_outside hdepth]
    refine Nat.le_trans (depth_readOutside_le hdepth c) ?_
    cases s.escaped <;> by_cases hc : c = '(' <;> simp [hdepth, hc]
  · exact Nat.le_of_eq (by rw [read_of_inside hdepth, depth_readInside])

theorem kind_ne_group_of_read {s : Scan} {c : Char} {token : Token} (hbefore : s.depth = 0)
    (h : (s.read c).1 = some token) : token.kind ≠ .group := by
  rw [read_of_outside hbefore] at h
  unfold readOutside flush at h
  repeat' split at h
  all_goals simp at h
  all_goals simp [← h]

theorem kind_of_flush {s : Scan} {token : Token} (h : s.flush.1 = some token) : token.kind = .word := by
  unfold flush at h
  split at h
  · contradiction
  · rw [← Option.some.inj h]

theorem read_opening {s : Scan} {c : Char} (hbefore : s.depth = 0)
    (hafter : (s.read c).2.depth ≠ 0) :
    s.escaped = false ∧ s.inQuotes = false ∧ c = '(' ∧
      s.read c = (none, { s with leads := s.pending.isEmpty, depth := 1, pending := c :: s.pending }) := by
  rw [read_of_outside hbefore] at hafter ⊢
  unfold readOutside flush at hafter ⊢
  repeat' split at hafter
  all_goals simp_all

theorem read_staying {s : Scan} {c : Char} (hbefore : s.depth ≠ 0)
    (hafter : (s.read c).2.depth ≠ 0) :
    (s.read c).1 = none ∧ (s.read c).2.pending = c :: s.pending ∧ (s.read c).2.leads = s.leads ∧
      (s.read c).2.inQuotes = s.inQuotes := by
  rw [read_of_inside hbefore] at hafter ⊢
  unfold readInside at hafter ⊢
  repeat' split
  all_goals simp_all

theorem read_closing {s : Scan} {c : Char} (hbefore : s.depth ≠ 0)
    (hafter : (s.read c).2.depth = 0) :
    s.escaped = false ∧ s.depth = 1 ∧ c = ')' ∧
      s.read c = (some ⟨if s.leads then .group else .word, String.ofList (c :: s.pending).reverse⟩,
        { s with depth := 0, pending := [] }) := by
  rw [read_of_inside hbefore] at hafter ⊢
  unfold readInside at hafter ⊢
  repeat' split at hafter
  all_goals simp_all [text]
  omega

theorem read_group {s : Scan} {c : Char} {token : Token} (hread : (s.read c).1 = some token)
    (hkind : token.kind = .group) :
    s.depth = 1 ∧ s.leads = true ∧ token = ⟨.group, String.ofList (')' :: s.pending).reverse⟩ := by
  by_cases hbefore : s.depth = 0
  · exact absurd hkind (kind_ne_group_of_read hbefore hread)
  by_cases hafter : (s.read c).2.depth = 0
  · obtain ⟨-, hdepth, rfl, hclosed⟩ := read_closing hbefore hafter
    rw [hclosed, Option.some.injEq] at hread
    subst hread
    cases hleads : s.leads with
    | true => exact ⟨hdepth, rfl, rfl⟩
    | false => simp [hleads] at hkind
  · simp [(read_staying hbefore hafter).1] at hread

end TrackSearch.Query.Scan
