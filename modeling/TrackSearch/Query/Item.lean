import TrackSearch.Query.Token

/-!
Tokens taken two at a time where the first is a relation: the unit in which a query is parsed.
-/

namespace TrackSearch.Query

inductive Relation where
  | and
  | or
  deriving DecidableEq

def Token.relation? (t : Token) : Option Relation :=
  if t.text = "AND" then some .and else if t.text = "OR" then some .or else none

structure Item where
  relation : Option Relation
  token : Token
  deriving DecidableEq

/-- The first item and what follows it. A relation at the very end makes no item, and the token after
a relation is no relation, whatever it spells. -/
def nextItem? : List Token → Option (Item × List Token)
  | [] => none
  | token :: rest =>
    match token.relation?, rest with
    | none, _ => some (⟨none, token⟩, rest)
    | some _, [] => none
    | some relation, next :: rest => some (⟨some relation, next⟩, rest)

theorem nextItem?_length {queue rest : List Token} {item : Item}
    (h : nextItem? queue = some (item, rest)) : rest.length < queue.length := by
  match queue with
  | [] => simp [nextItem?] at h
  | token :: tail =>
    simp only [nextItem?] at h
    split at h <;> simp at h <;> obtain ⟨-, rfl⟩ := h <;> simp only [List.length_cons] <;> omega

theorem nextItem?_totalLength {queue rest : List Token} {item : Item}
    (h : nextItem? queue = some (item, rest)) :
    item.token.chars.length + totalLength rest ≤ totalLength queue := by
  match queue with
  | [] => simp [nextItem?] at h
  | token :: tail =>
    simp only [nextItem?] at h
    split at h <;> simp at h <;> obtain ⟨rfl, rfl⟩ := h <;> simp [totalLength]

end TrackSearch.Query
