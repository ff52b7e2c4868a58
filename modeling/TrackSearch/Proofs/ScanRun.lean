import TrackSearch.Proofs.ScanStep
import TrackSearch.Query.Depth

/-! Runs of a scan. Texts are read one after another, and a limit on the depth either is never noticed
or stops the run: which of the two is decided by the peak of the run without a limit. -/

namespace TrackSearch.Query

namespace Scan

theorem filter_eq_none_iff {limit : Option Nat} {depth : Nat} :
    limit.filter (· < depth) = none ↔ ∀ n ∈ limit, depth ≤ n := by
  rw [Option.filter_eq_none_iff]
  exact forall₂_congr fun n _ => by rw [decide_eq_true_eq, Nat.not_lt]

theorem readAll_nil_ok {limit : Option Nat} {s last : Scan} {tokens : List Token}
    (h : s.readAll limit [] = .ok (tokens, last)) : tokens = [] ∧ last = s := by
  simp only [readAll, Except.ok.injEq, Prod.mk.injEq] at h
  exact ⟨h.1.symm, h.2.symm⟩

theorem readAll_cons_ok {limit : Option Nat} {s last : Scan} {c : Char} {cs : List Char}
    {tokens : List Token} (h : s.readAll limit (c :: cs) = .ok (tokens, last)) :
    ∃ rest, tokens = (s.read c).1.toList ++ rest ∧ (∀ n ∈ limit, (s.read c).2.depth ≤ n) ∧
      (s.read c).2.readAll limit cs = .ok (rest, last) := by
  simp only [readAll] at h
  split at h
  · simp at h
  · next hlimit =>
    split at h
    · simp at h
    · next rest next hrest =>
      simp only [Except.ok.injEq, Prod.mk.injEq] at h
      obtain ⟨rfl, rfl⟩ := h
      exact ⟨rest, rfl, filter_eq_none_iff.1 hlimit, hrest⟩

theorem readAll_append_eq {limit : Option Nat} {s middle : Scan} {first second : List Char}
    {tokens : List Token} (h : s.readAll limit first = .ok (tokens, middle)) :
    s.readAll limit (first ++ second) =
      (middle.readAll limit second).map fun read => (tokens ++ read.1, read.2) := by
  induction first generalizing s tokens with
  | nil =>
    obtain ⟨rfl, rfl⟩ := readAll_nil_ok h
    rw [List.nil_append]
    cases middle.readAll limit second <;> rfl
  | cons c cs ih =>
    obtain ⟨rest, rfl, hlimit, hrest⟩ := readAll_cons_ok h
    simp only [List.cons_append, readAll, filter_eq_none_iff.2 hlimit, ih hrest]
    cases middle.readAll limit second <;> simp [Except.map]

theorem readAll_append {limit : Option Nat} {s middle last : Scan} {first second : List Char}
    {tokens more : List Token} (hfirst : s.readAll limit first = .ok (tokens, middle))
    (hsecond : middle.readAll limit second = .ok (more, last)) :
    s.readAll limit (first ++ second) = .ok (tokens ++ more, last) := by
  rw [readAll_append_eq hfirst, hsecond, Except.map]

theorem readAll_append_ok {limit : Option Nat} {s last : Scan} {first second : List Char}
    {tokens : List Token} (h : s.readAll limit (first ++ second) = .ok (tokens, last)) :
    ∃ before middle more, s.readAll limit first = .ok (before, middle) ∧
      middle.readAll limit second = .ok (more, last) ∧ tokens = before ++ more := by
  induction first generalizing s tokens with
  | nil => exact ⟨[], s, tokens, rfl, h, rfl⟩
  | cons c cs ih =>
    obtain ⟨rest, rfl, hlimit, hrest⟩ := readAll_cons_ok h
    obtain ⟨before, middle, more, hbefore, hmore, rfl⟩ := ih hrest
    refine ⟨(s.read c).1.toList ++ before, middle, more, ?_, hmore, (List.append_assoc ..).symm⟩
    simp only [readAll, filter_eq_none_iff.2 hlimit, hbefore]

theorem readAll_single {limit : Option Nat} {s next : Scan} {c : Char} {token : Option Token}
    (h : s.read c = (token, next)) (hlimit : ∀ n ∈ limit, next.depth ≤ n) :
    s.readAll limit [c] = .ok (token.toList, next) := by
  simp only [readAll, h, filter_eq_none_iff.2 hlimit, List.append_nil]

theorem readAll_cons {limit : Option Nat} {s next last : Scan} {c : Char} {cs : List Char}
    {token : Option Token} {tokens : List Token} (hread : s.read c = (token, next))
    (hlimit : ∀ n ∈ limit, next.depth ≤ n) (h : next.readAll limit cs = .ok (tokens, last)) :
    s.readAll limit (c :: cs) = .ok (token.toList ++ tokens, last) :=
  readAll_append (readAll_single hread hlimit) h

theorem readAll_invariant {limit : Option Nat} {Holds : Scan → Prop} {Says : Token → Prop}
    {s last : Scan} {cs : List Char} {tokens : List Token}
    (hread : ∀ s, ∀ c ∈ cs, Holds s → (∀ n ∈ limit, (s.read c).2.depth ≤ n) → Holds (s.read c).2)
    (htoken : ∀ s, ∀ c ∈ cs, ∀ token, Holds s → (s.read c).1 = some token → Says token) (hs : Holds s)
    (h : s.readAll limit cs = .ok (tokens, last)) : Holds last ∧ ∀ token ∈ tokens, Says token := by
  induction cs generalizing s tokens with
  | nil =>
    obtain ⟨rfl, rfl⟩ := readAll_nil_ok h
    exact ⟨hs, by simp⟩
  | cons c cs ih =>
    obtain ⟨rest, rfl, hlimit, hrest⟩ := readAll_cons_ok h
    have hnext := hread s c List.mem_cons_self hs hlimit
    obtain ⟨hlast, htail⟩ := ih (fun s d hd => hread s d (List.mem_cons_of_mem c hd))
      (fun s d hd => htoken s d (List.mem_cons_of_mem c hd)) hnext hrest
    refine ⟨hlast, fun token hmem => ?_⟩
    rcases List.mem_append.1 hmem with hhead | hmem
    · exact htoken s c List.mem_cons_self token hs (Option.mem_toList.1 hhead)
    · exact htail token hmem

theorem exists_readAll_none (s : Scan) (cs : List Char) :
    ∃ tokens last, s.readAll none cs = .ok (tokens, last) := by
  induction cs generalizing s with
  | nil => exact ⟨[], s, rfl⟩
  | cons c cs ih =>
    obtain ⟨tokens, last, h⟩ := ih (s.read c).2
    exact ⟨_, last, readAll_cons rfl (by simp) h⟩

theorem readAll_of_peak_le {n : Nat} {s : Scan} {cs : List Char} (h : s.peak cs ≤ n) :
    s.readAll (some n) cs = s.readAll none cs := by
  induction cs generalizing s with
  | nil => rfl
  | cons c cs ih =>
    have hrest : (s.read c).2.peak cs ≤ n := Nat.le_trans (s.peak_read_le c cs) h
    have hdepth : (s.read c).2.depth ≤ n := Nat.le_trans ((s.read c).2.depth_le_peak cs) hrest
    simp only [readAll, Option.filter, ih hrest, Nat.not_lt.2 hdepth, decide_false,
      Bool.false_eq_true, if_false]

theorem readAll_of_lt_peak {n : Nat} {s : Scan} {cs : List Char} (hstart : s.depth ≤ n)
    (h : n < s.peak cs) : s.readAll (some n) cs = .error (.tooDeep n) := by
  induction cs generalizing s with
  | nil => exact absurd h (Nat.not_lt.2 hstart)
  | cons c cs ih =>
    have hrest : n < (s.read c).2.peak cs := by
      simp only [peak] at h
      omega
    by_cases hdepth : n < (s.read c).2.depth
    · simp only [readAll, Option.filter, hdepth, decide_true, if_true]
    · simp only [readAll, Option.filter, hdepth, decide_false, Bool.false_eq_true, if_false,
        ih (Nat.not_lt.1 hdepth) hrest]

theorem peak_le_of_readAll {n : Nat} {s last : Scan} {cs : List Char} {tokens : List Token}
    (hstart : s.depth ≤ n) (h : s.readAll (some n) cs = .ok (tokens, last)) : s.peak cs ≤ n := by
  refine Nat.not_lt.1 fun hdeep => ?_
  rw [readAll_of_lt_peak hstart hdeep] at h
  simp at h

end Scan

theorem tokenize_of_peak_le {n : Nat} {query : List Char} (h : Scan.start.peak query ≤ n) :
    tokenize (some n) query = tokenize none query := by
  simp only [tokenize, Scan.readAll_of_peak_le h]

theorem tokenize_of_lt_peak {n : Nat} {query : List Char} (h : n < Scan.start.peak query) :
    tokenize (some n) query = .error (.tooDeep n) := by
  simp only [tokenize, Scan.readAll_of_lt_peak (Nat.zero_le n) h]

theorem peak_le_of_tokenize {n : Nat} {query : List Char} {tokens : List Token}
    (h : tokenize (some n) query = .ok tokens) : Scan.start.peak query ≤ n := by
  refine Nat.not_lt.1 fun hdeep => ?_
  rw [tokenize_of_lt_peak hdeep] at h
  simp at h

theorem tokenize_none_of_tokenize {limit : Option Nat} {query : List Char} {tokens : List Token}
    (h : tokenize limit query = .ok tokens) : tokenize none query = .ok tokens := by
  cases limit with
  | none => exact h
  | some n => rw [← tokenize_of_peak_le (peak_le_of_tokenize h), h]

theorem tokenize_ok {limit : Option Nat} {query : List Char} {tokens : List Token}
    (h : tokenize limit query = .ok tokens) :
    ∃ read last, Scan.start.readAll limit query = .ok (read, last) ∧ last.inQuotes = false ∧
      last.depth = 0 ∧ tokens = read ++ last.flush.1.toList := by
  unfold tokenize at h
  split at h
  · simp at h
  · next read last hread =>
    unfold Scan.finish at h
    split at h
    · simp [Except.map] at h
    · next hquotes =>
      split at h
      · simp [Except.map] at h
      · next hdepth =>
        simp only [Except.map, Except.ok.injEq] at h
        exact ⟨read, last, hread, by simpa using hquotes, by simpa using hdepth, h.symm⟩

theorem tokenize_invariant {limit : Option Nat} {Holds : Scan → Prop} {Says : Token → Prop}
    {query : List Char} {tokens : List Token}
    (hread : ∀ s, ∀ c ∈ query, Holds s → (∀ n ∈ limit, (s.read c).2.depth ≤ n) → Holds (s.read c).2)
    (htoken : ∀ s, ∀ c ∈ query, ∀ token, Holds s → (s.read c).1 = some token → Says token)
    (hword : ∀ token : Token, token.kind = .word → Says token) (hstart : Holds .start)
    (h : tokenize limit query = .ok tokens) : ∀ token ∈ tokens, Says token := by
  obtain ⟨read, last, hall, -, -, rfl⟩ := tokenize_ok h
  intro token hmem
  rcases List.mem_append.1 hmem with hhere | hflush
  · exact (Scan.readAll_invariant hread htoken hstart hall).2 token hhere
  · exact hword token (Scan.kind_of_flush (Option.mem_toList.1 hflush))

theorem tokenize_none_error {query : List Char} {e : SyntaxError}
    (h : tokenize none query = .error e) :
    ∃ read last, Scan.start.readAll none query = .ok (read, last) ∧
      (e = .unclosedQuote ∨ e = .unclosedBracket ∧ last.depth ≠ 0) := by
  obtain ⟨read, last, hread⟩ := Scan.start.exists_readAll_none query
  refine ⟨read, last, hread, ?_⟩
  simp only [tokenize, hread, Scan.finish] at h
  split at h
  · exact Or.inl (by simpa [Except.map] using h.symm)
  · split at h
    · next hdepth => exact Or.inr ⟨by simpa [Except.map] using h.symm, hdepth⟩
    · simp [Except.map] at h

end TrackSearch.Query
