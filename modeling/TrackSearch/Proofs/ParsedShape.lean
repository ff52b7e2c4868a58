import TrackSearch.Proofs.NestingLimit
import TrackSearch.Proofs.RenderedTokens

/-! What parsing can return: canonical predicates only, and none that needs deeper brackets than the query
it was read from. -/

namespace TrackSearch.Query

namespace Predicate

theorem bracketDepth_le_operandDepth (p : Predicate) : p.bracketDepth ≤ p.operandDepth := by
  unfold operandDepth
  split
  · exact Nat.le_succ _
  · exact Nat.le_refl _

theorem operandDepth_le (p : Predicate) : p.operandDepth ≤ p.bracketDepth + 1 := by
  unfold operandDepth
  split
  · exact Nat.le_refl _
  · exact Nat.le_succ _

end Predicate

theorem bracketDepth_join {before clause : Predicate} (relation : Option Relation) {depth : Nat}
    (hbefore : before.bracketDepth ≤ depth) (hclause : clause.operandDepth ≤ depth) :
    (join before relation clause).bracketDepth ≤ depth := by
  unfold join
  split
  · exact Nat.le_trans clause.bracketDepth_le_operandDepth hclause
  · next halways =>
    have hleading : before.leadingDepth = before.bracketDepth := if_neg halways
    have hboth : max before.leadingDepth clause.operandDepth ≤ depth :=
      Nat.max_le.2 ⟨hleading ▸ hbefore, hclause⟩
    split
    · exact hboth
    · exact hboth

theorem predicate?_eq_some {c : Criterion} {p : Predicate} (h : c.predicate? = some p) :
    (p.isAlways || p.isCombined) = false ∧ p.IsCanonical := by
  unfold Criterion.predicate? at h
  split at h
  case h_4 =>
    obtain ⟨year, rfl, hyear⟩ | ⟨min, max, rfl, hrange⟩ := readYears?_eq_some h
    · exact ⟨rfl, hyear⟩
    · exact ⟨rfl, hrange⟩
  case h_5 =>
    obtain ⟨flag, -, rfl⟩ := Option.map_eq_some_iff.1 h
    exact ⟨rfl, trivial⟩
  all_goals
    obtain rfl := Option.some.inj h
    exact ⟨rfl, trivial⟩

theorem isCanonical_of_parses {limit : Option Nat} {before p : Predicate} {queue : List Token}
    (h : Parses limit before queue p) (hbefore : before.IsCanonical) : p.IsCanonical := by
  induction h with
  | done => exact hbefore
  | dropped _ _ _ _ ih => exact ih hbefore
  | criterion _ _ hvalue _ ih => exact ih (isCanonical_join _ hbefore (predicate?_eq_some hvalue).2)
  | group _ _ _ _ _ ihinner ih => exact ih (isCanonical_join _ hbefore (ihinner trivial))

theorem bracketDepth_of_parses {limit : Option Nat} {before p : Predicate} {queue : List Token}
    (h : Parses limit before queue p) {depth : Nat} (hqueue : ∀ t ∈ queue, t.Nests depth)
    (hbefore : before.bracketDepth ≤ depth) : p.bracketDepth ≤ depth := by
  induction h generalizing depth with
  | done => exact hbefore
  | dropped hitem _ _ _ ih => exact ih (nextItem?_forall hitem hqueue).2 hbefore
  | criterion hitem _ hvalue _ ih =>
    have hclause := Predicate.operandDepth_of_leaf (predicate?_eq_some hvalue).1
    exact ih (nextItem?_forall hitem hqueue).2
      (bracketDepth_join _ hbefore (hclause ▸ Nat.zero_le _))
  | group hitem hcontents htokens _ _ ihinner ih =>
    have hpeak := ((nextItem?_forall hitem hqueue).1 _ hcontents).1
    have hclause := ihinner (fun _ ht => nests_of_tokenize htokens ht) (Nat.zero_le _)
    -- A bracket around the clause is paid for by the one around the group.
    refine ih (nextItem?_forall hitem hqueue).2 (bracketDepth_join _ hbefore ?_)
    exact Nat.le_trans (Predicate.operandDepth_le _) (Nat.lt_of_le_of_lt hclause hpeak)

end TrackSearch.Query
