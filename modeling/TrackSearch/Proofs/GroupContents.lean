import TrackSearch.Proofs.ScanRun
import TrackSearch.Query.Clause

/-! What the scan of a query promises of the contents of its groups. The scan around a group takes no
notice of quotes, and the scan of the contents does; so the second opens no bracket that the first has
not opened, and closes every bracket that the first closes or has none open. -/

namespace TrackSearch.Query

/-- The contents of the group that the token is, if it is one, nest less deep than `depth`, and all that
can be wrong with them is an open quote. -/
def Token.Nests (depth : Nat) (t : Token) : Prop :=
  ∀ contents, t.contents? = some contents →
    Scan.start.peak contents < depth ∧
      ∀ e, tokenize none contents = .error e → e = .unclosedQuote

theorem Token.Nests.mono {depth deeper : Nat} {t : Token} (h : t.Nests depth) (hle : depth ≤ deeper) :
    t.Nests deeper :=
  fun contents hcontents => ⟨Nat.lt_of_lt_of_le (h contents hcontents).1 hle, (h contents hcontents).2⟩

theorem Token.nests_of_kind_ne {depth : Nat} {t : Token} (h : t.kind ≠ .group) : t.Nests depth := by
  intro contents hcontents
  simp [Token.contents?, h] at hcontents

namespace Scan

/-- `inner` has read the contents of a group of which `outer` has read the bracket as well. -/
structure Within (inner outer : Scan) : Prop where
  escaped : inner.escaped = outer.escaped
  depth : inner.depth < outer.depth

theorem Within.read {inner outer : Scan} (h : Within inner outer) {c : Char}
    (hopen : (outer.read c).2.depth ≠ 0) : Within (inner.read c).2 (outer.read c).2 := by
  refine ⟨by rw [escaped_read, escaped_read, h.escaped], ?_⟩
  have houter : outer.depth ≠ 0 := Nat.ne_of_gt (Nat.zero_lt_of_lt h.depth)
  have hinner := inner.depth_read_le c
  rw [h.escaped] at hinner
  rw [read_of_inside houter, depth_readInside] at hopen ⊢
  have hdepth := h.depth
  -- The two depths move by the same amount, except that `inner` may stay where `outer` opens (behind a
  -- quote) or, with no bracket open, where `outer` closes.
  split at hopen
  · simp_all only [if_true]
    omega
  · next hescaped =>
    simp only [hescaped, Bool.false_eq_true, if_false] at hinner ⊢
    split at hopen
    · simp_all only [if_true]
      omega
    · next hc =>
      simp only [hc, if_false] at hinner ⊢
      split at hopen
      · simp_all only [if_true]
        omega
      · simp_all only [if_false]
        omega

theorem Within.tokenize_error {inner outer : Scan} (h : Within inner outer) (hdepth : outer.depth = 1)
    {n : Nat} {contents : List Char} {tokens : List Token}
    (hread : start.readAll (some n) contents = .ok (tokens, inner)) {e : SyntaxError}
    (he : tokenize none contents = .error e) : e = .unclosedQuote := by
  have hinner : inner.depth = 0 := by
    have := h.depth
    omega
  have hpeak := peak_le_of_readAll (Nat.zero_le n) hread
  obtain ⟨read, last, hlast, hquote | ⟨-, hopen⟩⟩ := tokenize_none_error he
  · exact hquote
  · rw [← readAll_of_peak_le hpeak, hread] at hlast
    obtain rfl : inner = last := by
      simp only [Except.ok.injEq, Prod.mk.injEq] at hlast
      exact hlast.2
    exact absurd hinner hopen

/-- Between two characters of a query read with at most `limit` brackets open: the text of an open group
is its bracket and contents of which a scan with one bracket less has been `Within` this one. -/
structure Tracks (limit : Nat) (s : Scan) : Prop where
  depth_le : s.depth ≤ limit
  group : s.depth ≠ 0 → s.leads = true → ∃ contents tokens inner,
    s.pending.reverse = '(' :: contents ∧
      start.readAll (some (limit - 1)) contents = .ok (tokens, inner) ∧ Within inner s

theorem tracks_start (limit : Nat) : start.Tracks limit :=
  ⟨Nat.zero_le _, fun h => absurd rfl h⟩

theorem Tracks.read {limit : Nat} {s : Scan} (h : s.Tracks limit) {c : Char}
    (hlimit : (s.read c).2.depth ≤ limit) : (s.read c).2.Tracks limit := by
  refine ⟨hlimit, fun hafter hleads => ?_⟩
  by_cases hbefore : s.depth = 0
  · -- The bracket just read is the first character of the group; nothing of its contents is read yet.
    obtain ⟨hescaped, -, hc, hread⟩ := read_opening hbefore hafter
    simp only [hread, List.isEmpty_iff] at hleads ⊢
    refine ⟨[], [], start, by simp [hleads, hc], rfl, ?_, ?_⟩
    · simp [start, hescaped]
    · simp [start]
  · obtain ⟨-, hpending, hsame, -⟩ := read_staying hbefore hafter
    obtain ⟨contents, tokens, inner, htext, hinner, hwithin⟩ := h.group hbefore (hsame ▸ hleads)
    have hnext := hwithin.read hafter
    have hdepth : ∀ n ∈ some (limit - 1), (inner.read c).2.depth ≤ n := by
      rintro n ⟨⟩
      have := hnext.depth
      omega
    exact ⟨contents ++ [c], _, _, by simp [hpending, htext],
      readAll_append hinner (readAll_single rfl hdepth), hnext⟩

theorem Tracks.nests {limit : Nat} {s : Scan} (h : s.Tracks limit) {c : Char} {token : Token}
    (hread : (s.read c).1 = some token) : token.Nests limit := by
  by_cases hkind : token.kind = .group
  · obtain ⟨hdepth, hleads, rfl⟩ := read_group hread hkind
    have hopen : s.depth ≠ 0 := by omega
    obtain ⟨contents, tokens, inner, htext, hinner, hwithin⟩ := h.group hopen hleads
    intro contents' hcontents
    obtain rfl : contents' = contents := by
      simpa [Token.contents?, Token.chars, htext, Text.between?] using hcontents.symm
    have hlimit := h.depth_le
    have hpeak := peak_le_of_readAll (Nat.zero_le _) hinner
    exact ⟨by omega, fun e he => hwithin.tokenize_error hdepth hinner he⟩
  · exact Token.nests_of_kind_ne hkind

end Scan

theorem nests_of_tokenize {limit : Option Nat} {query : List Char} {tokens : List Token}
    (h : tokenize limit query = .ok tokens) {token : Token} (htoken : token ∈ tokens) :
    token.Nests (Scan.start.peak query) := by
  have hpeak := tokenize_of_peak_le (Nat.le_refl (Scan.start.peak query))
  rw [tokenize_none_of_tokenize h] at hpeak
  refine tokenize_invariant (fun s c _ hs hlimit => Scan.Tracks.read hs (hlimit _ rfl))
    (fun s c _ token hs => hs.nests) (fun token hword => ?_) (Scan.tracks_start _) hpeak token htoken
  exact Token.nests_of_kind_ne (by simp [hword])

end TrackSearch.Query
