import TrackSearch.Command.Answer
import TrackSearch.Proofs.JsonRoundTrip
import TrackSearch.Proofs.ReopenedCatalog

/-! A predicate is read back from the JSON that is written for it, up to the nesting that a reader allows
and no further. What a predicate needs of the room is counted kind by kind: a leaf opens an object, a range
the object of its ends as well, and a relation an object, an array and whatever its two sides open. -/

namespace TrackSearch.Query.Predicate

section Reading

variable {kind : String} {p q r : Predicate} {json : Json}

theorem ofJson?_leaf (hkind : kind ≠ "year_range") (hjson : ∀ left right, json ≠ .array [left, right])
    (h : leafOfJson? kind json = some p) (room : Nat) :
    ofJson? room (.object [(kind, json)]) = if 1 ≤ room then some p else none := by
  cases room with
  | zero => simp [ofJson?]
  | succ room =>
    rw [if_pos (Nat.le_add_left 1 room), ofJson?, h]
    · exact fun _ left right _ => hjson left right
    · exact hkind

theorem ofJson?_range (min max : Option Int32) (room : Nat) :
    ofJson? room (yearRange min max).toJson = if 2 ≤ room then some (yearRange min max) else none := by
  have hends : rangeOfJson? (.object [("min", Json.ofYear min), ("max", Json.ofYear max)]) =
      some (yearRange min max) := by
    simp [rangeOfJson?, Json.fields?, Json.member?, Json.orElse?, Json.nullable?_ofYear]
  rw [toJson]
  rcases room with _ | _ | room
  · simp [ofJson?]
  · simp [ofJson?]
  · simp [ofJson?, hends]

theorem leafOfJson?_array (kind : String) (items : List Json) :
    leafOfJson? kind (.array items) = none := by
  unfold leafOfJson?
  split <;> rfl

theorem ofJson?_relation (hkind : kind ≠ "year_range") (h : ofRelation? kind p q = some r)
    (hp : ∀ room, ofJson? room p.toJson = if p.nesting ≤ room then some p else none)
    (hq : ∀ room, ofJson? room q.toJson = if q.nesting ≤ room then some q else none) (room : Nat) :
    ofJson? room (.object [(kind, .array [p.toJson, q.toJson])]) =
      if 2 + max p.nesting q.nesting ≤ room then some r else none := by
  rcases room with _ | _ | room
  · simp [ofJson?]
  · -- The array has no room, and no leaf has an array for its operand.
    rw [if_neg (by omega), ofJson?, leafOfJson?_array]
    · simp
    · exact hkind
  · have hroom : 2 + max p.nesting q.nesting ≤ room + 1 + 1 ↔ p.nesting ≤ room ∧ q.nesting ≤ room := by
      omega
    rw [ofJson?, hp, hq]
    · by_cases hleft : p.nesting ≤ room
      · by_cases hright : q.nesting ≤ room
        · simp [hroom, hleft, hright, h]
        · simp [hroom, hleft, hright]
      · simp [hroom, hleft]
    · exact hkind

end Reading

theorem ofJson?_toJson (p : Predicate) (room : Nat) :
    ofJson? room p.toJson = if p.nesting ≤ room then some p else none := by
  induction p generalizing room with
  | always => simp [toJson, ofJson?, nesting]
  | and left right hleft hright => exact ofJson?_relation (by decide) rfl hleft hright room
  | or left right hleft hright => exact ofJson?_relation (by decide) rfl hleft hright room
  | titleContains text => exact ofJson?_leaf (by decide) (by simp) rfl room
  | artistContains text => exact ofJson?_leaf (by decide) (by simp) rfl room
  | albumContains text => exact ofJson?_leaf (by decide) (by simp) rfl room
  | yearEquals year =>
    have hyear : leafOfJson? "year_equals" (.integer year.toInt) = some (yearEquals year) := by
      rw [leafOfJson?, Json.int32?, Text.int32OfInt?_toInt, Option.map_some]
    exact ofJson?_leaf (by decide) (by simp) hyear room
  | yearRange min max => exact ofJson?_range min max room
  | explicitIs flag => exact ofJson?_leaf (by decide) (by simp) rfl room
  | tagIncluded name => exact ofJson?_leaf (by decide) (by simp) rfl room
  | tagExcluded name => exact ofJson?_leaf (by decide) (by simp) rfl room
  | freeText text => exact ofJson?_leaf (by decide) (by simp) rfl room

/-- What is printed for a predicate is read back as that predicate if it nests no deeper than a reader
allows, and is rejected otherwise. So is every other text of the same JSON value. -/
theorem ofText?_written (p : Predicate) :
    ofText? ((Command.Answer.predicate p).render true) = (if p.nesting ≤ 127 then some p else none) ∧
      ∀ text, Json.read? text = some p.toJson →
        ofText? text = if p.nesting ≤ 127 then some p else none := by
  have hvalue : ∀ text, Json.read? text = some p.toJson →
      ofText? text = if p.nesting ≤ 127 then some p else none := by
    intro text hread
    rw [ofText?, hread, Option.bind_some]
    exact ofJson?_toJson p nestingLimit
  have hprinted : (Command.Answer.predicate p).render true = p.toJson.pretty ++ "\n" := by
    simp [Command.Answer.render, Command.Answer.unlines, Command.Answer.toJson, String.join_cons]
  refine ⟨hvalue _ ?_, hvalue⟩
  rw [hprinted, Json.read?_line]

theorem ofText?_written_compact :
    Json.read? "\x7b\"or\":[\x7b\"year_range\":\x7b\"min\":null,\"max\":2020\x7d\x7d,\"true\"]\x7d" =
        some (or (yearRange none (some 2020)) always).toJson ∧
      ofText? "\x7b\"or\":[\x7b\"year_range\":\x7b\"min\":null,\"max\":2020\x7d\x7d,\"true\"]\x7d" =
        some (or (yearRange none (some 2020)) always) := by
  have hread : Json.read? "\x7b\"or\":[\x7b\"year_range\":\x7b\"min\":null,\"max\":2020\x7d\x7d,\"true\"]\x7d" =
      some (or (yearRange none (some 2020)) always).toJson := rfl
  exact ⟨hread, (ofText?_written _).2 _ hread⟩

end TrackSearch.Query.Predicate
