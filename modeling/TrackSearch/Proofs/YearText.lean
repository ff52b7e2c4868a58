import TrackSearch.Query.Canonical
import TrackSearch.Query.Render

/-! Years as they are written and read. A numeral reads back as its number; between dashes there is no
room for a minus sign, so only years from zero on are read, alone or as the ends of a range. -/

namespace TrackSearch.Text

theorem digitValue?_of_isDigit {c : Char} (h : c.isDigit = true) :
    digitValue? c = some (c.toNat - '0'.toNat) := by
  simp only [Char.isDigit, Bool.and_eq_true, decide_eq_true_eq] at h
  exact if_pos ⟨h.1, h.2⟩

theorem readDigits_of_isDigit {value : Nat} {cs : List Char} (h : ∀ c ∈ cs, c.isDigit = true) :
    readDigits value cs = some (Nat.ofDigitChars 10 cs value) := by
  induction cs generalizing value with
  | nil => rfl
  | cons c cs ih =>
    have hc := digitValue?_of_isDigit (h c (List.mem_cons_self ..))
    simp only [readDigits, hc, Nat.ofDigitChars_cons]
    exact ih fun d hd => h d (List.mem_cons_of_mem _ hd)

theorem isDigit_of_mem_showNat {n : Nat} {c : Char} (h : c ∈ showNat n) : c.isDigit = true :=
  Nat.isDigit_of_mem_toDigits (by decide) (by decide) h

theorem readDigits_showNat (n : Nat) : readDigits 0 (showNat n) = some n := by
  rw [readDigits_of_isDigit fun c => isDigit_of_mem_showNat]
  exact congrArg some Nat.ofDigitChars_ten_toDigits

theorem readUnsigned?_showNat (n : Nat) : readUnsigned? (showNat n) = some n := by
  have hne : (showNat n).isEmpty = false := by
    rw [List.isEmpty_eq_false_iff]
    exact Nat.toDigits_ne_nil
  simp only [readUnsigned?, hne, Bool.false_eq_true, if_false]
  exact readDigits_showNat n

theorem readNat?_showNat (n : Nat) : readNat? (showNat n) = some n := by
  unfold readNat?
  split
  · next cs heq =>
    have := isDigit_of_mem_showNat (heq ▸ List.mem_cons_self (a := '+') (l := cs))
    simp at this
  · exact readUnsigned?_showNat n

theorem readInt?_showInt (n : Int) : readInt? (showInt n) = some n := by
  cases n with
  | negSucc n =>
    simp only [showInt, readInt?, readUnsigned?_showNat]
    rfl
  | ofNat n =>
    unfold readInt? showInt
    split
    · next cs heq =>
      have := isDigit_of_mem_showNat (n := n) (heq ▸ List.mem_cons_self ..)
      simp at this
    · rw [readNat?_showNat]
      rfl

theorem int32OfInt?_toInt (n : Int32) : int32OfInt? n.toInt = some n := by
  have hmin := n.minValue_le_toInt
  have hmax := n.toInt_le
  rw [int32OfInt?, if_pos ⟨hmin, hmax⟩, Int32.ofInt_toInt]

theorem readInt32?_showInt32 (n : Int32) : readInt32? (showInt32 n) = some n := by
  simp only [readInt32?, showInt32, readInt?_showInt, Option.bind_some, int32OfInt?_toInt]

theorem minus_notMem_showInt32 {n : Int32} (h : 0 ≤ n.toInt) : '-' ∉ showInt32 n := by
  intro hmem
  unfold showInt32 at hmem
  obtain ⟨m, hm⟩ := Int.eq_ofNat_of_zero_le h
  rw [hm] at hmem
  have := isDigit_of_mem_showNat hmem
  simp at this

theorem readInt32?_nonneg {cs : List Char} {n : Int32} (hminus : '-' ∉ cs)
    (h : readInt32? cs = some n) : 0 ≤ n.toInt := by
  simp only [readInt32?, Option.bind_eq_some_iff, int32OfInt?, Option.ite_none_right_eq_some,
    Option.some.injEq] at h
  obtain ⟨m, hread, ⟨hmin, hmax⟩, rfl⟩ := h
  rw [Int32.toInt_ofInt_of_le hmin (Int.lt_add_one_of_le hmax)]
  unfold readInt? at hread
  split at hread
  · simp at hminus
  · obtain ⟨k, -, hk⟩ : ∃ k : Nat, readNat? cs = some k ∧ (k : Int) = m := by
      simpa [Option.bind_eq_some_iff] using hread
    exact hk ▸ Int.natCast_nonneg k

theorem notMem_of_mem_splitOn {a : Char} {cs part : List Char} (h : part ∈ cs.splitOn a) :
    a ∉ part := by
  induction cs generalizing part with
  | nil =>
    simp only [List.splitOn_nil, List.mem_singleton] at h
    simp [h]
  | cons c cs ih =>
    rw [List.splitOn_cons_eq_if_modifyHead] at h
    split at h
    · rcases List.mem_cons.1 h with rfl | htail
      · simp
      · exact ih htail
    · next hc =>
      cases hparts : cs.splitOn a with
      | nil => exact absurd hparts (List.splitOn_ne_nil a cs)
      | cons first others =>
        rw [hparts, List.modifyHead_cons] at h
        rcases List.mem_cons.1 h with rfl | htail
        · have hfirst : a ∉ first := ih (by simp [hparts])
          simp only [beq_iff_eq] at hc
          simp [hfirst, Ne.symm hc]
        · exact ih (by simp [hparts, htail])

end TrackSearch.Text

namespace TrackSearch.Query

open Text

theorem readYears?_showInt32 {year : Int32} (h : 0 ≤ year.toInt) :
    readYears? (showInt32 year) = some (.yearEquals year) := by
  rw [readYears?, List.splitOn_eq_singleton (minus_notMem_showInt32 h)]
  simp only [readInt32?_showInt32, Option.map_some]

theorem minus_notMem_showBound {bound : Option Int32} (h : ∀ year ∈ bound, 0 ≤ year.toInt) :
    '-' ∉ showBound bound := by
  cases bound with
  | none => simp [showBound]
  | some year => exact minus_notMem_showInt32 (h year rfl)

theorem readInt32?_showBound (bound : Option Int32) : readInt32? (showBound bound) = bound := by
  cases bound with
  | none => rfl
  | some year => exact readInt32?_showInt32 year

theorem readYears?_showBounds {min max : Option Int32} (hmin : ∀ year ∈ min, 0 ≤ year.toInt)
    (hmax : ∀ year ∈ max, 0 ≤ year.toInt) :
    readYears? (showBound min ++ '-' :: showBound max) = rangeOf? min max := by
  rw [readYears?, List.splitOn_append_cons_self_of_not_mem (minus_notMem_showBound hmin),
    List.splitOn_eq_singleton (minus_notMem_showBound hmax)]
  simp only [readInt32?_showBound]

theorem rangeOf?_of_isSome {min max : Option Int32} (h : min.isSome ∨ max.isSome) :
    rangeOf? min max = some (.yearRange min max) := by
  cases min <;> cases max <;> simp_all [rangeOf?]

theorem readYears?_eq_some {cs : List Char} {p : Predicate} (h : readYears? cs = some p) :
    (∃ year, p = .yearEquals year ∧ 0 ≤ year.toInt) ∨
      ∃ min max, p = .yearRange min max ∧ (min.isSome ∨ max.isSome) ∧
        (∀ year ∈ min, 0 ≤ year.toInt) ∧ ∀ year ∈ max, 0 ≤ year.toInt := by
  have hminus : ∀ part ∈ cs.splitOn '-', '-' ∉ part := fun _ => notMem_of_mem_splitOn
  unfold readYears? at h
  split at h
  · next year hparts =>
    obtain ⟨n, hread, rfl⟩ := Option.map_eq_some_iff.1 h
    exact Or.inl ⟨n, rfl, readInt32?_nonneg (hminus year (by simp [hparts])) hread⟩
  · next min max hparts =>
    unfold rangeOf? at h
    split at h
    · simp at h
    · next hnone =>
      refine Or.inr ⟨_, _, (Option.some.inj h).symm, ?_, fun n hn => ?_, fun n hn => ?_⟩
      · cases hmin : readInt32? min <;> cases hmax : readInt32? max <;> simp_all
      · exact readInt32?_nonneg (hminus min (by simp [hparts])) hn
      · exact readInt32?_nonneg (hminus max (by simp [hparts])) hn
  · simp at h

end TrackSearch.Query
