import TrackSearch.Query.Parse

/-! What parsing does with the first item of a queue, one equation for each way it can go. -/

namespace TrackSearch.Query

section Items

variable {limit : Option Nat} {before clause : Predicate} {queue rest tokens : List Token} {item : Item}
  {contents : List Char} {e : SyntaxError}

theorem nextItem?_mem {queue rest : List Token} {item : Item}
    (h : nextItem? queue = some (item, rest)) : item.token ∈ queue ∧ rest ⊆ queue := by
  match queue with
  | [] => simp [nextItem?] at h
  | token :: tail =>
    simp only [nextItem?] at h
    split at h <;> simp at h <;> obtain ⟨rfl, rfl⟩ := h <;> simp

theorem nextItem?_forall {P : Token → Prop} (h : nextItem? queue = some (item, rest))
    (hqueue : ∀ t ∈ queue, P t) : P item.token ∧ ∀ t ∈ rest, P t := by
  have hmem := nextItem?_mem h
  exact ⟨hqueue _ hmem.1, fun t ht => hqueue t (hmem.2 ht)⟩

theorem parseFrom_end (h : nextItem? queue = none) :
    parseFrom limit before queue = ⟨.ok before, [], []⟩ := by
  rw [parseFrom]
  split
  · rfl
  · simp_all

theorem parseFrom_dropped (h : nextItem? queue = some (item, rest))
    (hcontents : item.token.contents? = none) (hvalue : item.token.criterion.predicate? = none) :
    parseFrom limit before queue =
      { parseFrom limit before rest with
        events := .dropping item.token.criterion :: (parseFrom limit before rest).events } := by
  rw [parseFrom, h]
  dsimp only
  rw [hcontents]
  simp only [hvalue]

theorem parseFrom_criterion (h : nextItem? queue = some (item, rest))
    (hcontents : item.token.contents? = none)
    (hvalue : item.token.criterion.predicate? = some clause) :
    parseFrom limit before queue = parseFrom limit (join before item.relation clause) rest := by
  rw [parseFrom, h]
  dsimp only
  rw [hcontents]
  simp only [hvalue]

theorem parseFrom_unscanned (h : nextItem? queue = some (item, rest))
    (hcontents : item.token.contents? = some contents) (htokens : tokenize limit contents = .error e) :
    parseFrom limit before queue =
      ⟨.error e, rest, [.expanding (String.ofList contents)]⟩ := by
  rw [parseFrom, h]
  dsimp only
  rw [hcontents]
  dsimp only
  rw [htokens]

theorem parseFrom_failed (h : nextItem? queue = some (item, rest))
    (hcontents : item.token.contents? = some contents) (htokens : tokenize limit contents = .ok tokens)
    (hinner : (parse limit tokens).result = .error e) :
    parseFrom limit before queue =
      ⟨.error e, rest, .expanding (String.ofList contents) :: (parse limit tokens).events⟩ := by
  rw [parse] at hinner ⊢
  rw [parseFrom, h]
  dsimp only
  rw [hcontents]
  dsimp only
  rw [htokens]
  simp only [hinner]

theorem parseFrom_group (h : nextItem? queue = some (item, rest))
    (hcontents : item.token.contents? = some contents) (htokens : tokenize limit contents = .ok tokens)
    (hinner : (parse limit tokens).result = .ok clause) :
    parseFrom limit before queue =
      { parseFrom limit (join before item.relation clause) rest with
        events := .expanding (String.ofList contents) :: ((parse limit tokens).events ++
          (parseFrom limit (join before item.relation clause) rest).events) } := by
  rw [parse] at hinner ⊢
  rw [parseFrom, h]
  dsimp only
  rw [hcontents]
  dsimp only
  rw [htokens]
  simp only [hinner]

def Token.clause? (limit : Option Nat) (t : Token) : Except SyntaxError (Option Predicate) :=
  match t.contents? with
  | none => .ok t.criterion.predicate?
  | some contents =>
    match tokenize limit contents with
    | .error e => .error e
    | .ok tokens => (parse limit tokens).result.map some

theorem Token.clause?_criterion {t : Token} (h : t.contents? = none) :
    t.clause? limit = .ok t.criterion.predicate? := by
  rw [clause?, h]

theorem Token.clause?_unscanned {t : Token} (h : t.contents? = some contents)
    (htokens : tokenize limit contents = .error e) : t.clause? limit = .error e := by
  simp only [clause?, h, htokens]

theorem Token.clause?_group {t : Token} (h : t.contents? = some contents)
    (htokens : tokenize limit contents = .ok tokens) :
    t.clause? limit = (parse limit tokens).result.map some := by
  simp only [clause?, h, htokens]

theorem result_parseFrom (h : nextItem? queue = some (item, rest)) :
    (parseFrom limit before queue).result =
      match item.token.clause? limit with
      | .error e => .error e
      | .ok none => (parseFrom limit before rest).result
      | .ok (some clause) => (parseFrom limit (join before item.relation clause) rest).result := by
  cases hcontents : item.token.contents? with
  | none =>
    rw [Token.clause?_criterion hcontents]
    cases hvalue : item.token.criterion.predicate? with
    | none => rw [parseFrom_dropped h hcontents hvalue]
    | some clause => rw [parseFrom_criterion h hcontents hvalue]
  | some contents =>
    cases htokens : tokenize limit contents with
    | error e => rw [parseFrom_unscanned h hcontents htokens, Token.clause?_unscanned hcontents htokens]
    | ok tokens =>
      rw [Token.clause?_group hcontents htokens]
      cases hinner : (parse limit tokens).result with
      | error e => rw [parseFrom_failed h hcontents htokens hinner, Except.map]
      | ok clause => rw [parseFrom_group h hcontents htokens hinner, Except.map]

end Items

inductive Parses (limit : Option Nat) : Predicate → List Token → Predicate → Prop
  | done {before : Predicate} {queue : List Token} : nextItem? queue = none →
      Parses limit before queue before
  | dropped {before p : Predicate} {queue rest : List Token} {item : Item} :
      nextItem? queue = some (item, rest) → item.token.contents? = none →
      item.token.criterion.predicate? = none → Parses limit before rest p →
      Parses limit before queue p
  | criterion {before clause p : Predicate} {queue rest : List Token} {item : Item} :
      nextItem? queue = some (item, rest) → item.token.contents? = none →
      item.token.criterion.predicate? = some clause →
      Parses limit (join before item.relation clause) rest p → Parses limit before queue p
  | group {before clause p : Predicate} {queue rest tokens : List Token} {item : Item}
      {contents : List Char} : nextItem? queue = some (item, rest) →
      item.token.contents? = some contents → tokenize limit contents = .ok tokens →
      Parses limit .always tokens clause →
      Parses limit (join before item.relation clause) rest p → Parses limit before queue p

theorem parses_of_result {limit : Option Nat} {before p : Predicate} {queue : List Token}
    (h : (parseFrom limit before queue).result = .ok p) :
    Parses limit before queue p := by
  induction before, queue using parseFrom.induct limit generalizing p with
  | case1 before queue hitem =>
    rw [parseFrom_end hitem] at h
    exact Except.ok.inj h ▸ .done hitem
  | case2 before queue item rest hitem hcontents hvalue ih =>
    rw [parseFrom_dropped hitem hcontents hvalue] at h
    exact .dropped hitem hcontents hvalue (ih h)
  | case3 before queue item rest hitem hcontents clause hvalue ih =>
    rw [parseFrom_criterion hitem hcontents hvalue] at h
    exact .criterion hitem hcontents hvalue (ih h)
  | case4 before queue item rest hitem contents hcontents e htokens =>
    rw [parseFrom_unscanned hitem hcontents htokens] at h
    simp at h
  | case5 =>
    next hitem _ hcontents _ htokens _ _ hinner _ =>
    rw [parseFrom_failed hitem hcontents htokens hinner] at h
    simp at h
  | case6 =>
    next hitem _ hcontents _ htokens _ _ hinner ihinner ih =>
    rw [parseFrom_group hitem hcontents htokens hinner] at h
    exact .group hitem hcontents htokens (ihinner hinner) (ih h)

end TrackSearch.Query
