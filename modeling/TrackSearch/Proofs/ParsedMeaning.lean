import TrackSearch.Proofs.ParseStep
import TrackSearch.Query.Canonical
import TrackSearch.Query.Meaning

/-! Parsing a queue finds the meaning of the queue. Parsing joins each clause to the predicate before it
and takes that for empty while it always holds; the meaning is said of all operands at once. -/

namespace TrackSearch.Query

section Building

variable {α β ε : Type} {f : α → Except ε β} {x : α} {xs : List α} {e : ε}

theorem mapM_cons_of_error (h : f x = .error e) : (x :: xs).mapM f = .error e := by
  rw [List.mapM_cons, h]
  rfl

theorem mapM_cons_of_ok {b : β} (h : f x = .ok b) : (x :: xs).mapM f = (xs.mapM f).map (b :: ·) := by
  rw [List.mapM_cons, h]
  cases xs.mapM f <;> rfl

theorem mapM_eq_error_iff : xs.mapM f = .error e ↔
    ∃ done y behind, xs = done ++ y :: behind ∧ (∀ z ∈ done, ∃ b, f z = .ok b) ∧ f y = .error e := by
  induction xs with
  | nil => simp [pure, Except.pure]
  | cons x xs ih =>
    cases hx : f x with
    | error e' =>
      rw [mapM_cons_of_error hx]
      constructor
      · intro h
        obtain rfl := Except.error.inj h
        exact ⟨[], x, xs, rfl, by simp, hx⟩
      · rintro ⟨done, y, behind, hxs, hdone, hy⟩
        cases done with
        | nil =>
          obtain ⟨rfl, -⟩ := List.cons.inj hxs
          obtain rfl := Except.error.inj (hx.symm.trans hy)
          rfl
        | cons z done =>
          obtain ⟨rfl, -⟩ := List.cons.inj hxs
          obtain ⟨b, hb⟩ := hdone x (List.mem_cons_self ..)
          rw [hx] at hb
          contradiction
    | ok b =>
      have hmap : (x :: xs).mapM f = .error e ↔ xs.mapM f = .error e := by
        rw [mapM_cons_of_ok hx]
        cases xs.mapM f <;> simp [Except.map]
      rw [hmap, ih]
      constructor
      · rintro ⟨done, y, behind, rfl, hdone, hy⟩
        exact ⟨x :: done, y, behind, rfl, List.forall_mem_cons.2 ⟨⟨b, hx⟩, hdone⟩, hy⟩
      · rintro ⟨done, y, behind, hxs, hdone, hy⟩
        cases done with
        | nil =>
          obtain ⟨rfl, -⟩ := List.cons.inj hxs
          rw [hx] at hy
          contradiction
        | cons z done =>
          obtain ⟨rfl, rfl⟩ := List.cons.inj hxs
          exact ⟨done, y, behind, rfl, (List.forall_mem_cons.1 hdone).2, hy⟩

end Building

def operand? (limit : Option Nat) (part : Item × List Token) :
    Except (SyntaxError × List Token) (Option Operand) :=
  match part.1.token.meaning? limit with
  | .error e => .error (e, part.2)
  | .ok predicate => .ok (predicate.map (Operand.mk part.1.relation))

theorem meaning_eq (limit : Option Nat) (queue : List Token) :
    meaning limit queue =
      match (splitItems queue).mapM (operand? limit) with
      | .error (e, behind) => (.error e, behind)
      | .ok operands => (.ok (combine (operands.filterMap id)), []) := by
  have hattach : ((splitItems queue).attach.mapM fun part => operand? limit part.1) =
      (splitItems queue).mapM (operand? limit) := by
    rw [List.mapM_subtype (g := operand? limit) fun _ _ => rfl, List.unattach_attach]
  rw [meaning, ← hattach]
  rfl

def joinAll (before : Predicate) (operands : List Operand) : Predicate :=
  operands.foldl (fun before operand => join before operand.relation operand.predicate) before

theorem join_of_not_always {before : Predicate} (h : before.isAlways = false) (operand : Operand) :
    join before operand.relation operand.predicate = operand.joinTo before ∧
      (operand.joinTo before).isAlways = false := by
  unfold join Operand.joinTo
  rw [h]
  cases operand.relation with
  | none => exact ⟨rfl, rfl⟩
  | some relation => cases relation <;> exact ⟨rfl, rfl⟩

theorem joinAll_of_not_always {before : Predicate} (h : before.isAlways = false)
    (operands : List Operand) : joinAll before operands = operands.foldl Operand.joinTo before := by
  induction operands generalizing before with
  | nil => rfl
  | cons operand operands ih =>
    obtain ⟨hjoin, hnext⟩ := join_of_not_always h operand
    rw [joinAll, List.foldl_cons, hjoin, ← joinAll, ih hnext, List.foldl_cons]

theorem joinAll_always (operands : List Operand) : joinAll .always operands = combine operands := by
  induction operands with
  | nil => rfl
  | cons operand operands ih =>
    have hfirst : join .always operand.relation operand.predicate = operand.predicate := rfl
    rw [joinAll, List.foldl_cons, hfirst, ← joinAll]
    cases halways : operand.predicate.isAlways with
    | true =>
      rw [Predicate.isAlways_iff.1 halways, ih, combine, combine]
      simp [halways]
    | false =>
      rw [joinAll_of_not_always halways, combine]
      simp [halways]

def joinBuilt (before : Predicate) :
    Except (SyntaxError × List Token) (List (Option Operand)) → Except SyntaxError Predicate × List Token
  | .error (e, behind) => (.error e, behind)
  | .ok operands => (.ok (joinAll before (operands.filterMap id)), [])

theorem joinBuilt_always (limit : Option Nat) (queue : List Token) :
    joinBuilt .always ((splitItems queue).mapM (operand? limit)) = meaning limit queue := by
  rw [meaning_eq]
  cases (splitItems queue).mapM (operand? limit) with
  | error fault => rfl
  | ok operands => simp only [joinBuilt, joinAll_always]

section Steps

variable {limit : Option Nat} {before : Predicate} {part : Item × List Token}
  {parts : List (Item × List Token)}

theorem joinBuilt_cons_error {fault : SyntaxError × List Token} (h : operand? limit part = .error fault) :
    joinBuilt before ((part :: parts).mapM (operand? limit)) = (.error fault.1, fault.2) := by
  rw [mapM_cons_of_error h, joinBuilt]

theorem joinBuilt_cons_none (h : operand? limit part = .ok none) :
    joinBuilt before ((part :: parts).mapM (operand? limit)) =
      joinBuilt before (parts.mapM (operand? limit)) := by
  rw [mapM_cons_of_ok h]
  cases parts.mapM (operand? limit) <;> rfl

theorem joinBuilt_cons_some {operand : Operand} (h : operand? limit part = .ok (some operand)) :
    joinBuilt before ((part :: parts).mapM (operand? limit)) =
      joinBuilt (join before operand.relation operand.predicate) (parts.mapM (operand? limit)) := by
  rw [mapM_cons_of_ok h]
  cases parts.mapM (operand? limit) <;> rfl

variable {t : Token} {contents : List Char} {tokens : List Token}

theorem Token.meaning?_of_criterion (h : t.contents? = none) :
    t.meaning? limit = .ok t.criterion.predicate? := by
  rw [meaning?]
  split <;> simp_all

theorem Token.meaning?_of_unscanned {e : SyntaxError} (h : t.contents? = some contents)
    (htokens : tokenize limit contents = .error e) : t.meaning? limit = .error e := by
  rw [meaning?]
  split <;> simp_all
  split <;> simp_all

theorem Token.meaning?_of_group (h : t.contents? = some contents)
    (htokens : tokenize limit contents = .ok tokens) :
    t.meaning? limit = (meaning limit tokens).1.map some := by
  rw [meaning?]
  split <;> simp_all
  split <;> simp_all

end Steps

theorem parseFrom_eq_joinBuilt (limit : Option Nat) (before : Predicate) (queue : List Token) :
    ((parseFrom limit before queue).result, (parseFrom limit before queue).remaining) =
      joinBuilt before ((splitItems queue).mapM (operand? limit)) := by
  induction before, queue using parseFrom.induct limit with
  | case1 before queue hitem =>
    rw [parseFrom_end hitem, splitItems_of_none hitem]
    rfl
  | case2 before queue item rest hitem hcontents hvalue ih =>
    have hoperand : operand? limit (item, rest) = .ok none := by
      rw [operand?, Token.meaning?_of_criterion hcontents, hvalue]
      rfl
    rw [parseFrom_dropped hitem hcontents hvalue, splitItems_of_some hitem, joinBuilt_cons_none hoperand]
    exact ih
  | case3 before queue item rest hitem hcontents clause hvalue ih =>
    have hoperand : operand? limit (item, rest) = .ok (some ⟨item.relation, clause⟩) := by
      rw [operand?, Token.meaning?_of_criterion hcontents, hvalue]
      rfl
    rw [parseFrom_criterion hitem hcontents hvalue, splitItems_of_some hitem,
      joinBuilt_cons_some hoperand]
    exact ih
  | case4 before queue item rest hitem contents hcontents e htokens =>
    have hoperand : operand? limit (item, rest) = .error (e, rest) := by
      rw [operand?, Token.meaning?_of_unscanned hcontents htokens]
    rw [parseFrom_unscanned hitem hcontents htokens, splitItems_of_some hitem,
      joinBuilt_cons_error hoperand]
  | case5 before queue item rest hitem contents hcontents tokens htokens inner e hinner ih =>
    have hmeaning : (meaning limit tokens).1 = .error e := by
      rw [← joinBuilt_always, ← ih]
      exact hinner
    have hoperand : operand? limit (item, rest) = .error (e, rest) := by
      rw [operand?, Token.meaning?_of_group hcontents htokens, hmeaning]
      rfl
    rw [parseFrom_failed hitem hcontents htokens hinner, splitItems_of_some hitem,
      joinBuilt_cons_error hoperand]
  | case6 before queue item rest hitem contents hcontents tokens htokens inner clause hinner ihinner ih =>
    have hmeaning : (meaning limit tokens).1 = .ok clause := by
      rw [← joinBuilt_always, ← ihinner]
      exact hinner
    have hoperand : operand? limit (item, rest) = .ok (some ⟨item.relation, clause⟩) := by
      rw [operand?, Token.meaning?_of_group hcontents htokens, hmeaning]
      rfl
    rw [parseFrom_group hitem hcontents htokens hinner, splitItems_of_some hitem,
      joinBuilt_cons_some hoperand]
    exact ih

theorem parse_meaning (limit : Option Nat) (queue : List Token) :
    ((parse limit queue).result, (parse limit queue).remaining) = meaning limit queue := by
  rw [parse, parseFrom_eq_joinBuilt, joinBuilt_always]

theorem operand?_eq_error_iff {limit : Option Nat} {part : Item × List Token} {e : SyntaxError}
    {behind : List Token} :
    operand? limit part = .error (e, behind) ↔
      part.1.token.meaning? limit = .error e ∧ part.2 = behind := by
  unfold operand?
  cases part.1.token.meaning? limit <;> simp

theorem exists_operand?_iff {limit : Option Nat} {part : Item × List Token} :
    (∃ operand, operand? limit part = .ok operand) ↔
      ∃ predicate, part.1.token.meaning? limit = .ok predicate := by
  unfold operand?
  cases part.1.token.meaning? limit <;> simp

theorem meaning_eq_error_iff {limit : Option Nat} {queue behind : List Token} {e : SyntaxError} :
    meaning limit queue = (.error e, behind) ↔
      ∃ done item more, splitItems queue = done ++ (item, behind) :: more ∧
        (∀ part ∈ done, ∃ predicate, part.1.token.meaning? limit = .ok predicate) ∧
        item.token.meaning? limit = .error e := by
  have hmapM : meaning limit queue = (.error e, behind) ↔
      (splitItems queue).mapM (operand? limit) = .error (e, behind) := by
    rw [meaning_eq]
    cases (splitItems queue).mapM (operand? limit) with
    | error fault => simp [Prod.ext_iff]
    | ok operands => simp
  rw [hmapM, mapM_eq_error_iff]
  constructor
  · rintro ⟨done, part, more, hsplit, hdone, hpart⟩
    obtain ⟨hfails, rfl⟩ := operand?_eq_error_iff.1 hpart
    exact ⟨done, part.1, more, hsplit, fun part hmem => exists_operand?_iff.1 (hdone part hmem), hfails⟩
  · rintro ⟨done, item, more, hsplit, hdone, hfails⟩
    exact ⟨done, (item, behind), more, hsplit, fun part hmem => exists_operand?_iff.2 (hdone part hmem),
      operand?_eq_error_iff.2 ⟨hfails, rfl⟩⟩

theorem meaning?_eq_none_iff {limit : Option Nat} {t : Token} :
    t.meaning? limit = .ok none ↔ t.contents? = none ∧ t.criterion.predicate? = none := by
  cases hcontents : t.contents? with
  | none => simp [Token.meaning?_of_criterion hcontents]
  | some contents =>
    cases htokens : tokenize limit contents with
    | error e => simp [Token.meaning?_of_unscanned hcontents htokens]
    | ok tokens =>
      rw [Token.meaning?_of_group hcontents htokens]
      cases (meaning limit tokens).1 <;> simp [Except.map]

/-- Whatever queue is parsed, the result is its meaning and nothing of the queue is left. If a group in it
is at fault, the first such item gives the error and the tokens behind it are left. The items that
demand nothing are those with a year or a flag that cannot be read. -/
theorem parse_eq_meaning (limit : Option Nat) (queue : List Token) :
    ((parse limit queue).result, (parse limit queue).remaining) = meaning limit queue ∧
      (∀ e, (parse limit queue).result = .error e ↔
        ∃ done item behind more, splitItems queue = done ++ (item, behind) :: more ∧
          (∀ part ∈ done, ∃ predicate, part.1.token.meaning? limit = .ok predicate) ∧
          item.token.meaning? limit = .error e ∧ (parse limit queue).remaining = behind) ∧
      ∀ t : Token, t.meaning? limit = .ok none ↔ t.contents? = none ∧
        (t.criterion.field = .year ∧ readYears? t.criterion.operand.toList = none ∨
          t.criterion.field = .explicit ∧ readFlag? t.criterion.operand.toList = none) := by
  have hmeaning := parse_meaning limit queue
  refine ⟨hmeaning, fun e => ?_, fun t => ?_⟩
  · constructor
    · intro he
      have hfault : meaning limit queue = (.error e, (parse limit queue).remaining) := by
        rw [← hmeaning, he]
      obtain ⟨done, item, more, hsplit, hdone, hfails⟩ := meaning_eq_error_iff.1 hfault
      exact ⟨done, item, _, more, hsplit, hdone, hfails, rfl⟩
    · rintro ⟨done, item, behind, more, hsplit, hdone, hfails, -⟩
      have hfault := meaning_eq_error_iff.2 ⟨done, item, more, hsplit, hdone, hfails⟩
      exact congrArg Prod.fst (hmeaning.trans hfault)
  · rw [meaning?_eq_none_iff, Criterion.predicate?_eq_none_iff]

end TrackSearch.Query
