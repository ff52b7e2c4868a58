import TrackSearch.Query.Items
import TrackSearch.Query.Parse

/-!
The clauses of a query with its groups opened, and the criteria that parsing reports as left out.
-/

namespace TrackSearch.Query

mutual

def Token.clauses (t : Token) : List Token :=
  match _hcontents : t.contents? with
  | none => [t]
  | some contents =>
    match _htokens : tokenize none contents with
    | .error _ => []
    | .ok tokens => clauses tokens
termination_by (t.chars.length, 0)
decreasing_by
  have hcontents := Token.length_contents? _hcontents
  have htokens := tokenize_length _htokens
  simp only [Prod.lex_def]
  omega

def clauses (queue : List Token) : List Token :=
  (splitItems queue).attach.flatMap fun ⟨(item, _), _hitem⟩ => item.token.clauses
termination_by (totalLength queue, 1)
decreasing_by
  have hlength : item.token.chars.length ≤ totalLength queue := length_le_of_mem_splitItems _hitem
  simp only [Prod.lex_def]
  omega

end

def Event.dropped? : Event → Option Criterion
  | .expanding _ => none
  | .dropping criterion => some criterion

section

variable {queue rest tokens : List Token} {item : Item} {t : Token} {contents : List Char}

theorem clauses_eq (queue : List Token) :
    clauses queue = (splitItems queue).flatMap fun part => part.1.token.clauses := by
  have hattach : ((splitItems queue).attach.flatMap fun part => part.1.1.token.clauses) =
      (splitItems queue).flatMap fun part => part.1.token.clauses := by
    rw [List.flatMap_subtype (g := fun part => part.1.token.clauses) fun _ _ => rfl,
      List.unattach_attach]
  rw [clauses, ← hattach]

theorem clauses_of_none (h : nextItem? queue = none) : clauses queue = [] := by
  rw [clauses_eq, splitItems_of_none h, List.flatMap_nil]

theorem clauses_of_some (h : nextItem? queue = some (item, rest)) :
    clauses queue = item.token.clauses ++ clauses rest := by
  rw [clauses_eq, splitItems_of_some h, List.flatMap_cons, ← clauses_eq]

theorem Token.clauses_of_criterion (h : t.contents? = none) : t.clauses = [t] := by
  rw [Token.clauses]
  split <;> simp_all

theorem Token.clauses_of_unscanned {e : SyntaxError} (h : t.contents? = some contents)
    (htokens : tokenize none contents = .error e) : t.clauses = [] := by
  rw [Token.clauses]
  split <;> simp_all
  split <;> simp_all

theorem Token.clauses_of_group (h : t.contents? = some contents)
    (htokens : tokenize none contents = .ok tokens) : t.clauses = Query.clauses tokens := by
  rw [Token.clauses]
  split <;> simp_all
  split <;> simp_all

theorem mem_clauses_induction {P : (queue : List Token) → t ∈ clauses queue → Prop}
    (here : ∀ queue part (h : t ∈ clauses queue), part ∈ splitItems queue → part.1.token = t →
      t.contents? = none → P queue h)
    (inside : ∀ queue part contents tokens (h : t ∈ clauses queue) (hinner : t ∈ clauses tokens),
      part ∈ splitItems queue → part.1.token.contents? = some contents →
      tokenize none contents = .ok tokens → P tokens hinner → P queue h)
    (h : t ∈ clauses queue) : P queue h := by
  induction hlength : totalLength queue using Nat.strongRecOn generalizing queue with
  | ind n ih =>
    have hall := h
    rw [clauses_eq, List.mem_flatMap] at hall
    obtain ⟨part, hpart, ht⟩ := hall
    cases hcontents : part.1.token.contents? with
    | none =>
      rw [Token.clauses_of_criterion hcontents, List.mem_singleton] at ht
      exact here queue part h hpart ht.symm (ht ▸ hcontents)
    | some contents =>
      cases htokens : tokenize none contents with
      | error e => simp [Token.clauses_of_unscanned hcontents htokens] at ht
      | ok tokens =>
        rw [Token.clauses_of_group hcontents htokens] at ht
        have hitem := length_le_of_mem_splitItems hpart
        have hshorter := Token.length_contents? hcontents
        have htotal := tokenize_length htokens
        exact inside queue part contents tokens h ht hpart hcontents htokens
          (ih (totalLength tokens) (by omega) ht rfl)

theorem contents?_of_mem_clauses (h : t ∈ clauses queue) : t.contents? = none := by
  induction h using mem_clauses_induction with
  | here _ _ _ _ _ hnone => exact hnone
  | inside _ _ _ _ _ _ _ _ _ ih => exact ih

theorem clauses_subset_of_mem_splitItems {part : Item × List Token} (h : part ∈ splitItems queue) :
    part.1.token.clauses ⊆ clauses queue := by
  rw [clauses_eq]
  exact fun t ht => List.mem_flatMap.2 ⟨part, h, ht⟩

end

end TrackSearch.Query
