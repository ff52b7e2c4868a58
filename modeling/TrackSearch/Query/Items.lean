import TrackSearch.Query.Item

/-!
The items of a whole queue, where `nextItem?` takes only the first of them.
-/

namespace TrackSearch.Query

/-- The items from the left, each with the tokens behind it. A relation that ends the queue makes no
item. -/
def splitItems : List Token → List (Item × List Token)
  | [] => []
  | token :: rest =>
    match token.relation?, rest with
    | none, rest => (⟨none, token⟩, rest) :: splitItems rest
    | some _, [] => []
    | some relation, next :: rest => (⟨some relation, next⟩, rest) :: splitItems rest

def endsInRelation : List Token → Bool
  | [] => false
  | token :: rest =>
    match token.relation?, rest with
    | none, rest => endsInRelation rest
    | some _, [] => true
    | some _, _ :: rest => endsInRelation rest

section

variable {queue rest : List Token} {item : Item}

theorem nextItem?_eq_none (h : nextItem? queue = none) :
    queue = [] ∨ ∃ token relation, token.relation? = some relation ∧ queue = [token] := by
  match queue with
  | [] => exact Or.inl rfl
  | [token] =>
    cases hrelation : token.relation? with
    | none => simp [nextItem?, hrelation] at h
    | some relation => exact Or.inr ⟨token, relation, hrelation, rfl⟩
  | token :: _ :: _ => cases hrelation : token.relation? <;> simp [nextItem?, hrelation] at h

theorem nextItem?_eq_some (h : nextItem? queue = some (item, rest)) :
    (∃ token, token.relation? = none ∧ item = ⟨none, token⟩ ∧ queue = token :: rest) ∨
      ∃ token relation next, token.relation? = some relation ∧ item = ⟨some relation, next⟩ ∧
        queue = token :: next :: rest := by
  match queue with
  | [] => simp [nextItem?] at h
  | token :: tail =>
    cases hrelation : token.relation? with
    | none =>
      simp only [nextItem?, hrelation, Option.some.injEq, Prod.mk.injEq] at h
      exact Or.inl ⟨token, hrelation, h.1.symm, by rw [h.2]⟩
    | some relation =>
      cases tail with
      | nil => simp [nextItem?, hrelation] at h
      | cons next tail =>
        simp only [nextItem?, hrelation, Option.some.injEq, Prod.mk.injEq] at h
        exact Or.inr ⟨token, relation, next, hrelation, h.1.symm, by rw [h.2]⟩

theorem splitItems_of_none (h : nextItem? queue = none) : splitItems queue = [] := by
  rcases nextItem?_eq_none h with rfl | ⟨token, relation, hrelation, rfl⟩
  · rfl
  · unfold splitItems
    simp only [hrelation]

theorem splitItems_of_some (h : nextItem? queue = some (item, rest)) :
    splitItems queue = (item, rest) :: splitItems rest := by
  rcases nextItem?_eq_some h with ⟨token, hrelation, rfl, rfl⟩ | ⟨token, _, _, hrelation, rfl, rfl⟩
  · simp only [splitItems, hrelation]
  · rw [splitItems.eq_def]
    simp only [hrelation]

theorem endsInRelation_of_some (h : nextItem? queue = some (item, rest)) :
    endsInRelation queue = endsInRelation rest := by
  rcases nextItem?_eq_some h with ⟨token, hrelation, rfl, rfl⟩ | ⟨token, _, _, hrelation, rfl, rfl⟩
  · simp only [endsInRelation, hrelation]
  · rw [endsInRelation.eq_def]
    simp only [hrelation]

theorem eq_nil_of_nextItem?_eq_none (h : nextItem? queue = none) (hend : endsInRelation queue = false) :
    queue = [] := by
  rcases nextItem?_eq_none h with rfl | ⟨token, relation, hrelation, rfl⟩
  · rfl
  · simp [endsInRelation, hrelation] at hend

theorem nextItem?_append (h : nextItem? queue = some (item, rest)) (more : List Token) :
    nextItem? (queue ++ more) = some (item, rest ++ more) := by
  rcases nextItem?_eq_some h with ⟨token, hrelation, rfl, rfl⟩ | ⟨token, _, _, hrelation, rfl, rfl⟩
  · simp only [List.cons_append, nextItem?, hrelation]
  · simp only [List.cons_append, nextItem?, hrelation]

end

theorem queue_induction {P : List Token → Prop} (done : ∀ queue, nextItem? queue = none → P queue)
    (next : ∀ queue item rest, nextItem? queue = some (item, rest) → P rest → P queue)
    (queue : List Token) : P queue := by
  induction hlength : queue.length using Nat.strongRecOn generalizing queue with
  | ind n ih =>
    cases hitem : nextItem? queue with
    | none => exact done queue hitem
    | some first =>
      obtain ⟨item, rest⟩ := first
      have hshorter : rest.length < n := hlength ▸ nextItem?_length hitem
      exact next queue item rest hitem (ih rest.length hshorter rest rfl)

theorem length_le_of_mem_splitItems {queue : List Token} {part : Item × List Token}
    (h : part ∈ splitItems queue) : part.1.token.chars.length ≤ totalLength queue := by
  induction queue using queue_induction with
  | done queue hitem => simp [splitItems_of_none hitem] at h
  | next queue item rest hitem ih =>
    have htotal := nextItem?_totalLength hitem
    rw [splitItems_of_some hitem] at h
    rcases List.mem_cons.1 h with rfl | hrest
    · exact Nat.le_of_add_right_le htotal
    · have := ih hrest
      omega

theorem exists_item_of_mem {queue : List Token} {t : Token} (h : t ∈ queue)
    (hrelation : t.relation? = none) : ∃ part ∈ splitItems queue, part.1.token = t := by
  induction queue using queue_induction with
  | done queue hitem =>
    rcases nextItem?_eq_none hitem with rfl | ⟨token, relation, hsome, rfl⟩
    · contradiction
    · obtain rfl := List.mem_singleton.1 h
      simp [hrelation] at hsome
  | next queue item rest hitem ih =>
    have hbehind : t ∈ rest → ∃ part ∈ splitItems queue, part.1.token = t := by
      intro hmem
      obtain ⟨part, hpart, htoken⟩ := ih hmem
      exact ⟨part, splitItems_of_some hitem ▸ List.mem_cons_of_mem _ hpart, htoken⟩
    have hhere : item.token = t → ∃ part ∈ splitItems queue, part.1.token = t := fun htoken =>
      ⟨(item, rest), splitItems_of_some hitem ▸ List.mem_cons_self, htoken⟩
    rcases nextItem?_eq_some hitem with ⟨token, -, rfl, rfl⟩ | ⟨token, relation, next, hsome, rfl, rfl⟩
    · rcases List.mem_cons.1 h with rfl | hrest
      · exact hhere rfl
      · exact hbehind hrest
    · rcases List.mem_cons.1 h with rfl | hmore
      · simp [hrelation] at hsome
      · rcases List.mem_cons.1 hmore with rfl | hrest
        · exact hhere rfl
        · exact hbehind hrest

end TrackSearch.Query
