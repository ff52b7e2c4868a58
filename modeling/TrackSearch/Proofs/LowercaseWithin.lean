import TrackSearch.Proofs.LetterCase

/-! The lowercase of a text inside a longer one. It is that of the text alone but for the form of its
sigmas, and the form of a sigma is settled within the text unless nothing but case-ignorable characters
stand between it and an end. So exactly the texts without such a sigma are found in lowercase wherever
they stand. -/

namespace TrackSearch.Text

theorem leadsToCased_append (first second : List Char) :
    leadsToCased (first ++ second) =
      if first.all isCaseIgnorable then leadsToCased second else leadsToCased first := by
  induction first with
  | nil => rfl
  | cons c cs ih =>
    unfold leadsToCased at ih ⊢
    rw [List.cons_append, List.dropWhile_cons, List.dropWhile_cons, List.all_cons]
    cases hc : isCaseIgnorable c with
    | true => exact ih
    | false => rfl

theorem leadsToCased_of_ignorable {cs : List Char} (h : cs.all isCaseIgnorable = true) :
    leadsToCased cs = false := by
  have happend := leadsToCased_append cs []
  rwa [List.append_nil, if_pos h] at happend

theorem leadsToCased_sigma (cs : List Char) : leadsToCased (capitalSigma :: cs) = true := by
  have hkept : isCaseIgnorable capitalSigma = false := by decide
  have hcased : isCased capitalSigma = true := by decide
  simp [leadsToCased, hkept, hcased]

theorem leadsToCased_append_sigma (first second other : List Char) :
    leadsToCased (first ++ capitalSigma :: second) = leadsToCased (first ++ capitalSigma :: other) := by
  rw [leadsToCased_append, leadsToCased_append, leadsToCased_sigma, leadsToCased_sigma]

theorem sigma_not_mem_of_ignorable {cs : List Char} (h : cs.all isCaseIgnorable = true) :
    capitalSigma ∉ cs := by
  intro hmem
  have hsigma : isCaseIgnorable capitalSigma = true := List.all_eq_true.1 h _ hmem
  exact absurd hsigma (by decide)

/-- The lowercase of a text between `before`, spelled backwards, and `after`. -/
def lowerWithin (before after : List Char) : List Char → List Char
  | [] => []
  | c :: cs =>
    (if c = capitalSigma then [lowerSigma before (cs ++ after)] else lowerChar c) ++
      lowerWithin (c :: before) after cs

theorem lowerFrom_append (before first second : List Char) :
    lowerFrom before (first ++ second) =
      lowerWithin before second first ++ lowerFrom (first.reverse ++ before) second := by
  induction first generalizing before with
  | nil => rfl
  | cons c cs ih =>
    rw [List.cons_append, lowerFrom, ih, lowerWithin, List.append_assoc, List.reverse_cons,
      List.append_assoc]
    rfl

theorem lowerWithin_append (before after first second : List Char) :
    lowerWithin before after (first ++ second) =
      lowerWithin before (second ++ after) first ++
        lowerWithin (first.reverse ++ before) after second := by
  induction first generalizing before with
  | nil => rfl
  | cons c cs ih =>
    rw [List.cons_append, lowerWithin, ih, lowerWithin, List.append_assoc, List.append_assoc,
      List.reverse_cons, List.append_assoc]
    rfl

theorem lowerWithin_nil (before cs : List Char) : lowerWithin before [] cs = lowerFrom before cs := by
  have happend := lowerFrom_append before cs []
  rw [List.append_nil, lowerFrom, List.append_nil] at happend
  exact happend.symm

theorem lower_append_append (before cs after : List Char) :
    lower (before ++ (cs ++ after)) =
      lowerWithin [] (cs ++ after) before ++
        (lowerWithin before.reverse after cs ++ lowerFrom (cs.reverse ++ before.reverse) after) := by
  rw [lower, lowerFrom_append, List.append_nil, lowerFrom_append]

theorem lowerWithin_congr {before after before' after' cs : List Char}
    (h : ∀ front back, cs = front ++ capitalSigma :: back →
      lowerSigma (front.reverse ++ before) (back ++ after) =
        lowerSigma (front.reverse ++ before') (back ++ after')) :
    lowerWithin before after cs = lowerWithin before' after' cs := by
  induction cs generalizing before before' with
  | nil => rfl
  | cons c cs ih =>
    rw [forall_split_cons] at h
    obtain ⟨hhead, hlater⟩ := h
    have hrest : lowerWithin (c :: before) after cs = lowerWithin (c :: before') after' cs :=
      ih fun front back hcs => by simpa using hlater front back hcs
    rw [lowerWithin, lowerWithin, hrest]
    by_cases hc : c = capitalSigma
    · rw [if_pos hc, if_pos hc, show lowerSigma before (cs ++ after) = _ from hhead hc]
      rfl
    · rw [if_neg hc, if_neg hc]

/-- Further text makes a sigma between `before`, spelled backwards, and `after` final or not: one side has
nothing that counts, and by the other it may be final. -/
def IsOpenSigma (before after : List Char) : Prop :=
  before.all isCaseIgnorable = true ∧ leadsToCased after = false ∨
    leadsToCased before = true ∧ after.all isCaseIgnorable = true

def HasOpenSigma (cs : List Char) : Prop :=
  ∃ before after, cs = before ++ capitalSigma :: after ∧ IsOpenSigma before.reverse after

theorem lowerSigma_of_settled {front back : List Char} (h : ¬ IsOpenSigma front back)
    (before after : List Char) :
    lowerSigma (front ++ before) (back ++ after) = lowerSigma front back := by
  unfold IsOpenSigma at h
  unfold lowerSigma
  rw [leadsToCased_append, leadsToCased_append]
  cases hfront : front.all isCaseIgnorable with
  | true =>
    have hcased := leadsToCased_of_ignorable hfront
    cases hback : back.all isCaseIgnorable with
    | true => simp [hfront, leadsToCased_of_ignorable hback] at h
    | false => simp_all
  | false =>
    cases hback : back.all isCaseIgnorable with
    | true => simp_all
    | false => simp

theorem lowerWithin_of_settled {cs : List Char} (h : ¬ HasOpenSigma cs) (before after : List Char) :
    lowerWithin before after cs = lower cs := by
  rw [lower, ← lowerWithin_nil]
  refine lowerWithin_congr fun front back hcs => ?_
  have hsettled : ¬ IsOpenSigma front.reverse back := fun hopen => h ⟨front, back, hcs, hopen⟩
  rw [lowerSigma_of_settled hsettled, List.append_nil, List.append_nil]

section Open

variable {front back : List Char}

theorem lowerWithin_of_no_sigma {cs : List Char} (h : capitalSigma ∉ cs)
    (before after before' after' : List Char) :
    lowerWithin before after cs = lowerWithin before' after' cs := by
  refine lowerWithin_congr fun front back hcs => ?_
  rw [hcs] at h
  simp at h

theorem lowerWithin_before_sigma (before after after' cs : List Char) :
    lowerWithin before (capitalSigma :: after) cs = lowerWithin before (capitalSigma :: after') cs := by
  refine lowerWithin_congr fun front back _ => ?_
  rw [lowerSigma, lowerSigma, leadsToCased_append_sigma]

theorem lowerWithin_behind_sigma (before before' after cs : List Char) :
    lowerWithin (capitalSigma :: before) after cs = lowerWithin (capitalSigma :: before') after cs := by
  refine lowerWithin_congr fun front back _ => ?_
  rw [lowerSigma, lowerSigma, leadsToCased_append_sigma]

theorem lowerWithin_around_sigma {before after : List Char}
    (hbefore : before = [] ∨ capitalSigma ∉ front) (hafter : after = [] ∨ capitalSigma ∉ back) :
    lowerWithin before after (front ++ capitalSigma :: back) =
      lowerWithin [] (capitalSigma :: back) front ++
        lowerSigma (front.reverse ++ before) (back ++ after) ::
          lowerWithin (capitalSigma :: front.reverse) [] back := by
  have hfront : lowerWithin before (capitalSigma :: (back ++ after)) front =
      lowerWithin [] (capitalSigma :: back) front := by
    rcases hbefore with rfl | hnone
    · exact lowerWithin_before_sigma ..
    · exact lowerWithin_of_no_sigma hnone ..
  have hback : lowerWithin (capitalSigma :: (front.reverse ++ before)) after back =
      lowerWithin (capitalSigma :: front.reverse) [] back := by
    rcases hafter with rfl | hnone
    · exact lowerWithin_behind_sigma ..
    · exact lowerWithin_of_no_sigma hnone ..
  rw [lowerWithin_append, lowerWithin, if_pos rfl, hback, List.cons_append, hfront]
  rfl

theorem not_infix_of_replaced {first second before after : List Char} {c d : Char} (hne : c ≠ d)
    (hbefore : c ∉ before) (hafter : c ∉ after) :
    ¬ first ++ c :: second <:+: before ++ ((first ++ d :: second) ++ after) := by
  intro h
  have hcount := h.sublist.count_le c
  have hd : List.count c (d :: second) = List.count c second := List.count_cons_of_ne hne.symm
  simp only [List.count_append, List.count_eq_zero.2 hbefore, List.count_eq_zero.2 hafter, hd,
    List.count_cons_self] at hcount
  omega

theorem not_infix_of_other_form {before after : List Char}
    (hbefore : before.reverse = [] ∨ capitalSigma ∉ front) (hafter : after = [] ∨ capitalSigma ∉ back)
    (hne : lowerSigma front.reverse back ≠
      lowerSigma (front.reverse ++ before.reverse) (back ++ after))
    (hfirst : ∀ rest, lowerSigma front.reverse back ∉ lowerWithin [] rest before)
    (hlast : ∀ read, lowerSigma front.reverse back ∉ lowerFrom read after) :
    ¬ lower (front ++ capitalSigma :: back) <:+:
      lower (before ++ ((front ++ capitalSigma :: back) ++ after)) := by
  have halone : lower (front ++ capitalSigma :: back) =
      lowerWithin [] (capitalSigma :: back) front ++ lowerSigma front.reverse back ::
        lowerWithin (capitalSigma :: front.reverse) [] back := by
    rw [lower, ← lowerWithin_nil, lowerWithin_around_sigma (Or.inl rfl) (Or.inl rfl), List.append_nil,
      List.append_nil]
  rw [lower_append_append, halone, lowerWithin_around_sigma hbefore hafter]
  exact not_infix_of_replaced hne (hfirst _) (hlast _)

theorem not_infix_behind_letter (hfront : front.reverse.all isCaseIgnorable = true)
    (hback : leadsToCased back = false) :
    ¬ lower (front ++ capitalSigma :: back) <:+:
      lower (['a'] ++ ((front ++ capitalSigma :: back) ++ [])) := by
  have hcased : leadsToCased ['a'] = true := by decide
  have hletter : ∀ rest, lowerWithin [] rest ['a'] = ['a'] := fun _ => rfl
  have hplain : lowerSigma front.reverse back = 'σ' := by
    simp [lowerSigma, leadsToCased_of_ignorable hfront]
  have hfinal : lowerSigma (front.reverse ++ ['a']) back = 'ς' := by
    simp [lowerSigma, leadsToCased_append, hfront, hcased, hback]
  have hnone : capitalSigma ∉ front := fun hmem =>
    sigma_not_mem_of_ignorable hfront (List.mem_reverse.2 hmem)
  refine not_infix_of_other_form (Or.inr hnone) (Or.inl rfl) ?_ (fun rest => ?_) fun read => ?_
  · rw [List.append_nil, List.reverse_singleton, hplain, hfinal]
    decide
  · rw [hplain, hletter]
    decide
  · exact List.not_mem_nil

theorem not_infix_before_letter (hfront : leadsToCased front.reverse = true)
    (hback : back.all isCaseIgnorable = true) :
    ¬ lower (front ++ capitalSigma :: back) <:+:
      lower ([] ++ ((front ++ capitalSigma :: back) ++ ['a'])) := by
  have hcased : leadsToCased ['a'] = true := by decide
  have hletter : ∀ read, lowerFrom read ['a'] = ['a'] := fun _ => rfl
  have hfinal : lowerSigma front.reverse back = 'ς' := by
    simp [lowerSigma, hfront, leadsToCased_of_ignorable hback]
  have hplain : lowerSigma front.reverse (back ++ ['a']) = 'σ' := by
    simp [lowerSigma, leadsToCased_append, hback, hcased]
  have hnone : capitalSigma ∉ back := sigma_not_mem_of_ignorable hback
  refine not_infix_of_other_form (Or.inl rfl) (Or.inr hnone) ?_ (fun rest => ?_) fun read => ?_
  · rw [List.reverse_nil, List.append_nil, hfinal, hplain]
    decide
  · exact List.not_mem_nil
  · rw [hfinal, hletter]
    decide

theorem lower_infix_iff {cs : List Char} :
    (∀ before after, lower cs <:+: lower (before ++ (cs ++ after))) ↔ ¬ HasOpenSigma cs := by
  constructor
  · intro h hopen
    obtain ⟨front, back, rfl, ⟨hfront, hback⟩ | ⟨hfront, hback⟩⟩ := hopen
    · exact not_infix_behind_letter hfront hback (h _ _)
    · exact not_infix_before_letter hfront hback (h _ _)
  · intro h before after
    rw [lower_append_append, lowerWithin_of_settled h]
    exact ⟨_, _, (List.append_assoc ..)⟩

end Open

end TrackSearch.Text
