import TrackSearch.Text.Blank
import TrackSearch.Text.Lowercase

/-! Lowercase leads to letters that stay as they are and to no blanks. So lowercasing can be repeated at
will, letter by letter or as a whole, and the two differ only in a final sigma. -/

namespace TrackSearch.Text

/-- No letter that the run leads to is mapped on by the others: they lie between two runs, or between
the code points of a run that takes every second one. -/
def CaseRun.endsOutside (r : CaseRun) : List CaseRun → Bool
  | [] => true
  | s :: rest =>
    if s.last < r.target then r.endsOutside rest
    else if r.target + (r.last - r.first) < s.first then s.first ≤ s.last
    else (r.stride == 2 || r.first == r.last) && s.stride == 2 && s.first ≤ r.target &&
      (r.target - s.first) % 2 == 1 && r.endsOutside rest

theorem lowercaseIn_of_endsOutside {r : CaseRun} {runs : List CaseRun} {k : Nat}
    (h : r.endsOutside runs = true) (hk : k ≤ r.last - r.first) (hstride : k % r.stride = 0) :
    lowercaseIn (r.target + k) runs = none := by
  induction runs with
  | nil => rfl
  | cons s rest ih =>
    unfold CaseRun.endsOutside at h
    unfold lowercaseIn
    split at h
    · rw [if_neg (by omega)]
      exact ih h
    split at h
    · have hvalid : s.first ≤ s.last := of_decide_eq_true h
      rw [if_pos (by omega), if_neg (by omega)]
    · simp only [Bool.and_eq_true, Bool.or_eq_true, beq_iff_eq, decide_eq_true_eq] at h
      obtain ⟨⟨⟨⟨heven, hevery⟩, hfirst⟩, hodd⟩, hrest⟩ := h
      have hk2 : k % 2 = 0 := by
        rcases heven with hr | hr
        · rwa [hr] at hstride
        · omega
      have hplace : ¬ (s.first ≤ r.target + k ∧ (r.target + k - s.first) % s.stride = 0) := by
        rw [hevery]
        omega
      rw [if_neg hplace, ih hrest]
      exact ite_self _

theorem endsOutside_caseRuns : ∀ r ∈ caseRuns, r.endsOutside caseRuns = true := by decide +kernel

theorem lowercaseIn_eq_some {n m : Nat} {runs : List CaseRun} (h : lowercaseIn n runs = some m) :
    ∃ r ∈ runs, ∃ k, k ≤ r.last - r.first ∧ k % r.stride = 0 ∧ m = r.target + k := by
  induction runs with
  | nil => simp [lowercaseIn] at h
  | cons r rest ih =>
    unfold lowercaseIn at h
    split at h
    · next hlast =>
      rw [Option.ite_none_right_eq_some] at h
      obtain ⟨⟨hfirst, hstride⟩, hm⟩ := h
      exact ⟨r, List.mem_cons_self, n - r.first, by omega, hstride, (Option.some.inj hm).symm⟩
    · obtain ⟨s, hs, hk⟩ := ih h
      exact ⟨s, List.mem_cons_of_mem r hs, hk⟩

/-- Ranges without blanks, surrogates and the dotted capital i. -/
def plainRanges : List CodeRange :=
  [⟨0x21, 0x84⟩, ⟨0xA1, 0x12F⟩, ⟨0x131, 0x167F⟩, ⟨0x1681, 0x1FFF⟩, ⟨0x2060, 0x2FFF⟩,
   ⟨0x3001, 0xD7FF⟩, ⟨0xE000, 0x10FFFF⟩]

theorem plain_target : ∀ r ∈ caseRuns, ∃ g ∈ plainRanges,
    g.first ≤ r.target ∧ r.target + (r.last - r.first) ≤ g.last := by decide +kernel

theorem plain_code {n : Nat} {g : CodeRange} (hg : g ∈ plainRanges) (hfirst : g.first ≤ n)
    (hlast : n ≤ g.last) : n ≠ 0x130 ∧ (Char.ofNat n).toNat = n ∧ isBlank (Char.ofNat n) = false := by
  have hplain : ∃ g ∈ plainRanges, g.first ≤ n ∧ n ≤ g.last := ⟨g, hg, hfirst, hlast⟩
  simp only [plainRanges, List.mem_cons, List.not_mem_nil, or_false, exists_eq_or_imp,
    exists_eq_left] at hplain
  have hvalid : n.isValidChar := by
    unfold Nat.isValidChar
    omega
  have hcode : (Char.ofNat n).toNat = n := by
    rw [Char.ofNat, dif_pos hvalid]
    rfl
  refine ⟨by omega, hcode, ?_⟩
  simp only [isBlank, hcode, Bool.or_eq_false_iff, Bool.and_eq_false_iff, decide_eq_false_iff_not,
    beq_eq_false_iff_ne]
  omega

def IsSmall (c : Char) : Prop := lowerChar c = [c]

instance : DecidablePred IsSmall := fun c => inferInstanceAs (Decidable (lowerChar c = [c]))

theorem isSmall_of_lowercaseIn {n m : Nat} (h : lowercaseIn n caseRuns = some m) :
    IsSmall (Char.ofNat m) ∧ isBlank (Char.ofNat m) = false := by
  obtain ⟨r, hr, k, hk, hstride, rfl⟩ := lowercaseIn_eq_some h
  obtain ⟨g, hg, hfirst, hlast⟩ := plain_target r hr
  have hnone := lowercaseIn_of_endsOutside (endsOutside_caseRuns r hr) hk hstride
  obtain ⟨hdotted, hcode, hblank⟩ := plain_code (n := r.target + k) hg (by omega) (by omega)
  refine ⟨?_, hblank⟩
  rw [IsSmall, lowerChar, hcode, if_neg hdotted, hnone]

theorem isSmall_of_mem_lowerChar {c d : Char} (h : d ∈ lowerChar c) :
    IsSmall d ∧ (isBlank c = false → isBlank d = false) := by
  unfold lowerChar at h
  split at h
  · simp only [List.mem_cons, List.not_mem_nil, or_false] at h
    rcases h with rfl | rfl <;> exact ⟨by decide, fun _ => by decide⟩
  · next hdotted =>
    cases hlow : lowercaseIn c.toNat caseRuns with
    | some n =>
      rw [hlow] at h
      obtain rfl := List.mem_singleton.1 h
      exact ⟨(isSmall_of_lowercaseIn hlow).1, fun _ => (isSmall_of_lowercaseIn hlow).2⟩
    | none =>
      rw [hlow] at h
      obtain rfl := List.mem_singleton.1 h
      refine ⟨?_, id⟩
      rw [IsSmall, lowerChar, if_neg hdotted, hlow]

theorem lowerChar_ne_nil (c : Char) : lowerChar c ≠ [] := by
  unfold lowerChar
  split
  · exact List.cons_ne_nil _ _
  · split <;> exact List.cons_ne_nil _ _

theorem isSmall_of_mem_lowerEach {cs : List Char} {d : Char} (h : d ∈ lowerEach cs) : IsSmall d := by
  obtain ⟨c, -, hd⟩ := List.mem_flatMap.1 h
  exact (isSmall_of_mem_lowerChar hd).1

theorem isBlank_of_mem_lowerEach {cs : List Char} {d : Char} (hcs : ∀ c ∈ cs, isBlank c = false)
    (h : d ∈ lowerEach cs) : isBlank d = false := by
  obtain ⟨c, hc, hd⟩ := List.mem_flatMap.1 h
  exact (isSmall_of_mem_lowerChar hd).2 (hcs c hc)

theorem lowerEach_ne_nil {cs : List Char} (h : cs ≠ []) : lowerEach cs ≠ [] := by
  obtain ⟨c, rest, rfl⟩ := List.exists_cons_of_ne_nil h
  rw [lowerEach, List.flatMap_cons]
  exact List.append_ne_nil_of_left_ne_nil (lowerChar_ne_nil c) _

theorem lowerEach_of_small {cs : List Char} (h : ∀ c ∈ cs, IsSmall c) : lowerEach cs = cs := by
  induction cs with
  | nil => rfl
  | cons c cs ih =>
    have hc : lowerChar c = [c] := h c List.mem_cons_self
    have hcs : lowerEach cs = cs := ih fun d hd => h d (List.mem_cons_of_mem c hd)
    rw [lowerEach, List.flatMap_cons, ← lowerEach, hc, hcs]
    rfl

theorem lowerEach_lowerEach (cs : List Char) : lowerEach (lowerEach cs) = lowerEach cs :=
  lowerEach_of_small fun _ => isSmall_of_mem_lowerEach

def HasFinalSigma (cs : List Char) : Prop :=
  ∃ before after, cs = before ++ capitalSigma :: after ∧ leadsToCased before.reverse = true ∧
    leadsToCased after = false

theorem lowerSigma_eq_iff {before after : List Char} :
    lowerSigma before after = 'σ' ↔ ¬ (leadsToCased before = true ∧ leadsToCased after = false) := by
  unfold lowerSigma
  cases leadsToCased before <;> cases leadsToCased after <;> decide

theorem lowerFrom_of_small {before cs : List Char} (h : ∀ c ∈ cs, IsSmall c) :
    lowerFrom before cs = cs := by
  induction cs generalizing before with
  | nil => rfl
  | cons c cs ih =>
    have hc : lowerChar c = [c] := h c List.mem_cons_self
    have hsigma : c ≠ capitalSigma := by
      rintro rfl
      exact absurd hc (by decide)
    rw [lowerFrom, if_neg hsigma, hc, ih fun d hd => h d (List.mem_cons_of_mem c hd)]
    rfl

theorem lower_of_small {cs : List Char} (h : ∀ c ∈ cs, IsSmall c) : lower cs = cs :=
  lowerFrom_of_small h

theorem isSmall_of_mem_lowerFrom {before cs : List Char} {d : Char} (h : d ∈ lowerFrom before cs) :
    IsSmall d := by
  induction cs generalizing before with
  | nil => simp [lowerFrom] at h
  | cons c cs ih =>
    rw [lowerFrom] at h
    rcases List.mem_append.1 h with hhere | hrest
    · split at hhere
      · rw [List.mem_singleton] at hhere
        rw [hhere, lowerSigma]
        split <;> decide
      · exact (isSmall_of_mem_lowerChar hhere).1
    · exact ih hrest

theorem lower_lower (cs : List Char) : lower (lower cs) = lower cs :=
  lower_of_small fun _ => isSmall_of_mem_lowerFrom

theorem forall_split_cons {c x : Char} {cs : List Char} {P : List Char → List Char → Prop} :
    (∀ front back, c :: cs = front ++ x :: back → P front back) ↔
      (c = x → P [] cs) ∧ ∀ front back, cs = front ++ x :: back → P (c :: front) back := by
  constructor
  · intro h
    refine ⟨fun hc => h [] cs (by rw [hc]; rfl), fun front back hcs => ?_⟩
    exact h (c :: front) back (by rw [hcs]; rfl)
  · rintro ⟨hhead, hlater⟩ front back hcs
    cases front with
    | nil =>
      obtain ⟨rfl, rfl⟩ := List.cons.inj hcs
      exact hhead rfl
    | cons d front =>
      obtain ⟨rfl, rfl⟩ := List.cons.inj hcs
      exact hlater front back rfl

theorem lowerFrom_eq_lowerEach_iff {before cs : List Char} :
    lowerFrom before cs = lowerEach cs ↔ ∀ front back, cs = front ++ capitalSigma :: back →
      lowerSigma (front.reverse ++ before) back = 'σ' := by
  induction cs generalizing before with
  | nil => simp [lowerFrom, lowerEach]
  | cons c cs ih =>
    have hcons : lowerEach (c :: cs) = lowerChar c ++ lowerEach cs := List.flatMap_cons
    rw [forall_split_cons, lowerFrom, hcons]
    simp only [List.reverse_cons, List.append_assoc, List.cons_append, List.nil_append, ← ih]
    by_cases hc : c = capitalSigma
    · have hsmall : lowerChar capitalSigma = ['σ'] := by decide
      simp [hc, hsmall]
    · rw [if_neg hc, List.append_cancel_left_eq]
      simp [hc]

theorem lower_eq_lowerEach_iff {cs : List Char} : lower cs = lowerEach cs ↔ ¬ HasFinalSigma cs := by
  rw [lower, lowerFrom_eq_lowerEach_iff, HasFinalSigma]
  simp only [List.append_nil, lowerSigma_eq_iff]
  constructor
  · rintro h ⟨before, after, hcs, hfinal⟩
    exact h before after hcs hfinal
  · intro h before after hcs hfinal
    exact h ⟨before, after, hcs, hfinal⟩

end TrackSearch.Text
