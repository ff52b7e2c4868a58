import TrackSearch.Proofs.Expansion
import TrackSearch.Proofs.TokenShape
import TrackSearch.Query.Descent
import TrackSearch.Query.Items

/-! Parsing ends on every queue of tokens, whatever their texts. Each step uses up some of the text in the
queues: an item takes its token away, and the tokens that come in for a group are shorter together than its
text by the two brackets at least. Steps do not change what parsing comes to, so that it ends as `parse`
says; and since every group that is open takes two characters from the one around it, no more groups can be
open at once than half the length of the outermost one. -/

namespace TrackSearch.Query

/-- How many steps a queue is good for: as many as a token has characters, and one if it has none. -/
def work : List Token → Nat
  | [] => 0
  | t :: tokens => max 1 t.chars.length + work tokens

theorem work_le (tokens : List Token) : work tokens ≤ tokens.length + totalLength tokens := by
  induction tokens with
  | nil => exact Nat.le_refl _
  | cons t tokens ih =>
    simp only [work, totalLength, List.length_cons]
    omega

theorem work_eq_totalLength {tokens : List Token} (h : ∀ t ∈ tokens, t.chars ≠ []) :
    work tokens = totalLength tokens := by
  induction tokens with
  | nil => rfl
  | cons t tokens ih =>
    have hlength := List.length_pos_iff.2 (h t List.mem_cons_self)
    have hrest := ih fun u hu => h u (List.mem_cons_of_mem t hu)
    simp only [work, totalLength, hrest]
    omega

theorem work_of_item {queue rest : List Token} {item : Item} (h : nextItem? queue = some (item, rest)) :
    max 1 item.token.chars.length + work rest ≤ work queue := by
  rcases nextItem?_eq_some h with ⟨token, -, rfl, rfl⟩ | ⟨token, relation, next, -, rfl, rfl⟩
  · exact Nat.le_refl _
  · exact Nat.le_add_left ..

theorem work_of_contents {limit : Option Nat} {t : Token} {contents : List Char} {tokens : List Token}
    (hcontents : t.contents? = some contents) (htokens : tokenize limit contents = .ok tokens) :
    work tokens + 2 ≤ t.chars.length := by
  have hlength := Token.length_contents? hcontents
  have htotal := tokenize_length htokens
  have hwork := work_eq_totalLength fun u hu => chars_ne_nil_of_tokenize htokens hu
  omega

namespace Descent

variable {limit : Option Nat} {d next : Descent} {last : Parse}

inductive Moves (limit : Option Nat) (d : Descent) : Descent → Prop
  | dropped {item : Item} {rest : List Token} : nextItem? d.queue = some (item, rest) →
      item.token.contents? = none → item.token.criterion.predicate? = none →
      Moves limit d { d with queue := rest, events := d.events ++ [.dropping item.token.criterion] }
  | criterion {item : Item} {rest : List Token} {clause : Predicate} :
      nextItem? d.queue = some (item, rest) → item.token.contents? = none →
      item.token.criterion.predicate? = some clause →
      Moves limit d { d with before := join d.before item.relation clause, queue := rest }
  | opened {item : Item} {rest tokens : List Token} {contents : List Char} :
      nextItem? d.queue = some (item, rest) → item.token.contents? = some contents →
      tokenize limit contents = .ok tokens →
      Moves limit d ⟨⟨item.token, d.before, item.relation, rest⟩ :: d.groups, .always, tokens,
        d.events ++ [.expanding (String.ofList contents)]⟩
  | closed {g : OpenGroup} {groups : List OpenGroup} : nextItem? d.queue = none → d.groups = g :: groups →
      Moves limit d ⟨groups, join g.before g.relation d.before, g.rest, d.events⟩

inductive Ends (limit : Option Nat) (d : Descent) : Parse → Prop
  | done : nextItem? d.queue = none → d.groups = [] → Ends limit d ⟨.ok d.before, [], d.events⟩
  | unscanned {item : Item} {rest : List Token} {contents : List Char} {e : SyntaxError} :
      nextItem? d.queue = some (item, rest) → item.token.contents? = some contents →
      tokenize limit contents = .error e →
      Ends limit d ⟨.error e, behindGroups rest d.groups,
        d.events ++ [.expanding (String.ofList contents)]⟩

theorem moves_or_ends (limit : Option Nat) (d : Descent) :
    (∃ next, d.step limit = .going next ∧ Moves limit d next) ∨
      ∃ outcome, d.step limit = .ended outcome ∧ Ends limit d outcome := by
  unfold step
  cases hitem : nextItem? d.queue with
  | none =>
    cases hgroups : d.groups with
    | nil => exact Or.inr ⟨_, rfl, .done hitem hgroups⟩
    | cons g groups => exact Or.inl ⟨_, rfl, .closed hitem hgroups⟩
  | some first =>
    obtain ⟨item, rest⟩ := first
    cases hcontents : item.token.contents? with
    | none =>
      cases hvalue : item.token.criterion.predicate? with
      | none => exact Or.inl ⟨_, by simp [hcontents, hvalue], .dropped hitem hcontents hvalue⟩
      | some clause => exact Or.inl ⟨_, by simp [hcontents, hvalue], .criterion hitem hcontents hvalue⟩
    | some contents =>
      cases htokens : tokenize limit contents with
      | error e => exact Or.inr ⟨_, by simp [hcontents, htokens], .unscanned hitem hcontents htokens⟩
      | ok tokens => exact Or.inl ⟨_, by simp [hcontents, htokens], .opened hitem hcontents htokens⟩

theorem moves_of_step (h : d.step limit = .going next) : Moves limit d next := by
  rcases d.moves_or_ends limit with ⟨next', hstep, hmoves⟩ | ⟨outcome, hstep, -⟩
  · obtain rfl : next' = next := Progress.going.inj (hstep.symm.trans h)
    exact hmoves
  · rw [hstep] at h
    contradiction

theorem ends_of_step (h : d.step limit = .ended last) : Ends limit d last := by
  rcases d.moves_or_ends limit with ⟨next, hstep, -⟩ | ⟨outcome, hstep, hends⟩
  · rw [hstep] at h
    contradiction
  · obtain rfl : outcome = last := Progress.ended.inj (hstep.symm.trans h)
    exact hends

theorem run_keeps {Holds : Descent → Prop} {steps : Nat}
    (hkeeps : ∀ d next, Holds d → Moves limit d next → Holds next) (h : Holds d) :
    (∀ stop, d.run limit steps = .going stop → Holds stop) ∧
      ∀ parsed, d.run limit steps = .ended parsed → ∃ stop, Holds stop ∧ Ends limit stop parsed := by
  induction steps generalizing d with
  | zero => exact ⟨fun stop hrun => Progress.going.inj hrun ▸ h, fun parsed hrun => by contradiction⟩
  | succ steps ih =>
    rw [run]
    cases hstep : d.step limit with
    | ended last =>
      refine ⟨fun stop hrun => by contradiction, fun parsed hrun => ⟨d, h, ?_⟩⟩
      exact Progress.ended.inj hrun ▸ ends_of_step hstep
    | going next => exact ih (hkeeps d next h (moves_of_step hstep))

def workBehind : List OpenGroup → Nat
  | [] => 0
  | g :: groups => 1 + work g.rest + workBehind groups

def stepsLeft (d : Descent) : Nat := 1 + work d.queue + workBehind d.groups

theorem Moves.stepsLeft_lt (h : Moves limit d next) : next.stepsLeft < d.stepsLeft := by
  cases h with
  | dropped hitem _ _ =>
    have hwork := work_of_item hitem
    simp only [stepsLeft]
    omega
  | criterion hitem _ _ =>
    have hwork := work_of_item hitem
    simp only [stepsLeft]
    omega
  | opened hitem hcontents htokens =>
    have hwork := work_of_item hitem
    have hinside := work_of_contents hcontents htokens
    simp only [stepsLeft, workBehind]
    omega
  | closed _ hgroups =>
    simp only [stepsLeft, hgroups, workBehind]
    omega

theorem run_ended {steps : Nat} (h : d.stepsLeft ≤ steps) :
    ∃ outcome, d.run limit steps = .ended outcome := by
  induction steps generalizing d with
  | zero =>
    simp only [stepsLeft] at h
    omega
  | succ steps ih =>
    rw [run]
    cases hstep : d.step limit with
    | ended outcome => exact ⟨outcome, rfl⟩
    | going next =>
      have hless := (moves_of_step hstep).stepsLeft_lt
      exact ih (by omega)

def close (limit : Option Nat) (inner : Parse) : List OpenGroup → Parse
  | [] => inner
  | g :: groups =>
    match inner.result with
    | .error e => close limit ⟨.error e, g.rest, inner.events⟩ groups
    | .ok clause =>
      let after := parseFrom limit (join g.before g.relation clause) g.rest
      close limit { after with events := inner.events ++ after.events } groups

def outcome (limit : Option Nat) (d : Descent) : Parse :=
  let inner := parseFrom limit d.before d.queue
  close limit { inner with events := d.events ++ inner.events } d.groups

theorem outcome_start (limit : Option Nat) (queue : List Token) :
    (start queue).outcome limit = parse limit queue := rfl

theorem close_error (e : SyntaxError) (rest : List Token) (events : List Event)
    (groups : List OpenGroup) :
    close limit ⟨.error e, rest, events⟩ groups = ⟨.error e, behindGroups rest groups, events⟩ := by
  induction groups generalizing rest with
  | nil => rfl
  | cons g groups ih => exact ih g.rest

theorem Moves.outcome_eq (h : Moves limit d next) : next.outcome limit = d.outcome limit := by
  cases h with
  | dropped hitem hcontents hvalue =>
    simp only [outcome, parseFrom_dropped hitem hcontents hvalue, List.append_assoc,
      List.singleton_append]
  | criterion hitem hcontents hvalue =>
    simp only [outcome, parseFrom_criterion hitem hcontents hvalue]
  | @opened item rest tokens contents hitem hcontents htokens =>
    -- The step leaves open what the contents come to, and both ways to go on are those of the parse.
    cases hinner : (parse limit tokens).result with
    | error e =>
      have hfailed : parseFrom limit d.before d.queue =
          ⟨.error e, rest, .expanding (String.ofList contents) :: (parse limit tokens).events⟩ :=
        parseFrom_failed hitem hcontents htokens hinner
      rw [parse] at hinner hfailed
      simp only [outcome, close, hinner, hfailed, List.append_assoc, List.singleton_append]
    | ok clause =>
      let after := parseFrom limit (join d.before item.relation clause) rest
      have hgroup : parseFrom limit d.before d.queue =
          { after with
            events := .expanding (String.ofList contents) ::
              ((parse limit tokens).events ++ after.events) } :=
        parseFrom_group hitem hcontents htokens hinner
      rw [parse] at hinner hgroup
      simp only [outcome, close, hinner, hgroup, after, List.append_assoc, List.cons_append,
        List.nil_append]
  | closed hitem hgroups =>
    simp only [outcome, hgroups, parseFrom_end hitem, close, List.append_nil]

theorem Ends.eq_outcome (h : Ends limit d last) : last = d.outcome limit := by
  cases h with
  | done hitem hgroups => simp only [Descent.outcome, hgroups, parseFrom_end hitem, close, List.append_nil]
  | unscanned hitem hcontents htokens =>
    simp only [Descent.outcome, parseFrom_unscanned hitem hcontents htokens, close_error]

theorem run_eq_outcome {steps : Nat} (h : d.run limit steps = .ended last) :
    last = d.outcome limit := by
  have hkeeps : ∀ e next : Descent, e.outcome limit = d.outcome limit → Moves limit e next →
      next.outcome limit = d.outcome limit := fun _ _ hsame hmoves => hmoves.outcome_eq.trans hsame
  obtain ⟨stop, hsame, hends⟩ := (run_keeps hkeeps rfl).2 last h
  exact hends.eq_outcome.trans hsame

end Descent

/-- The tokens `here` and the groups around them, from the innermost outwards, come from the queue: each
group stands with what follows it among the tokens of the contents of the next, and the outermost in the
queue itself. -/
inductive Stacked (limit : Option Nat) (queue : List Token) : List OpenGroup → List Token → Prop
  | queue {here : List Token} : here ⊆ queue → Stacked limit queue [] here
  | group {g : OpenGroup} {groups : List OpenGroup} {contents : List Char} {tokens here : List Token} :
      Stacked limit queue groups (g.token :: g.rest) → g.token.contents? = some contents →
      tokenize limit contents = .ok tokens → here ⊆ tokens → Stacked limit queue (g :: groups) here

namespace Stacked

variable {limit : Option Nat} {queue here : List Token} {groups : List OpenGroup} {t : Token}

theorem mono (h : Stacked limit queue groups here) {fewer : List Token} (hsub : fewer ⊆ here) :
    Stacked limit queue groups fewer := by
  cases h with
  | queue hhere => exact .queue fun t ht => hhere (hsub ht)
  | group haround hcontents htokens hhere =>
    exact .group haround hcontents htokens fun t ht => hhere (hsub ht)

theorem expands (h : Stacked limit queue groups here) (ht : t ∈ here) {contents : List Char}
    (hcontents : t.contents? = some contents) :
    ∃ outer ∈ queue, ∃ outside, outer.contents? = some outside ∧
      Expands limit outside groups.length contents := by
  induction h generalizing t contents with
  | queue hhere => exact ⟨t, hhere ht, contents, hcontents, .query⟩
  | group _ haround htokens hhere ih =>
    obtain ⟨outer, houter, outside, houtside, hgroup⟩ := ih List.mem_cons_self haround
    exact ⟨outer, houter, outside, houtside, hgroup.group htokens (hhere ht) hcontents⟩

theorem moves {d next : Descent} (h : Stacked limit queue d.groups d.queue)
    (hmoves : Descent.Moves limit d next) : Stacked limit queue next.groups next.queue := by
  cases hmoves with
  | dropped hitem _ _ => exact h.mono (nextItem?_mem hitem).2
  | criterion hitem _ _ => exact h.mono (nextItem?_mem hitem).2
  | opened hitem hcontents htokens =>
    have hitems := nextItem?_mem hitem
    exact .group (h.mono (List.cons_subset.2 hitems)) hcontents htokens (List.Subset.refl _)
  | closed _ hgroups =>
    rw [hgroups] at h
    cases h with
    | group haround _ _ _ => exact haround.mono (List.subset_cons_self _ _)

theorem run {steps : Nat} {d stop : Descent} (h : Stacked limit queue d.groups d.queue)
    (hrun : d.run limit steps = .going stop) : Stacked limit queue stop.groups stop.queue := by
  have hkeeps : ∀ e next : Descent, Stacked limit queue e.groups e.queue → Descent.Moves limit e next →
      Stacked limit queue next.groups next.queue := fun _ _ hstacked hmoves => hstacked.moves hmoves
  exact (Descent.run_keeps hkeeps h).1 stop hrun

end Stacked

/-- Parsing ends on every queue, within as many steps as there are tokens and characters in it and one
more, and comes to what `parse` says. For scanning never makes text longer, and what is scanned for a
group is two characters shorter than the group. So the groups that stand in each other are at most half as
many as the outermost has characters, and that goes for those that are open in the run when one more is
opened. -/
theorem parsing_ends (limit : Option Nat) (queue : List Token) :
    (∃ steps ≤ queue.length + totalLength queue + 1,
      (Descent.start queue).run limit steps = .ended (parse limit queue)) ∧
      (∀ text tokens, tokenize limit text = .ok tokens → totalLength tokens ≤ text.length) ∧
      (∀ group contents, classify group = .group contents →
        contents.toList.length + 2 = group.chars.length ∧
          ∀ level inner, Expands limit contents.toList level inner →
            2 * (level + 1) ≤ group.chars.length) ∧
      ∀ steps d item rest contents, (Descent.start queue).run limit steps = .going d →
        nextItem? d.queue = some (item, rest) → classify item.token = .group contents →
        ∃ outer ∈ queue, ∃ outside, classify outer = .group outside ∧
          Expands limit outside.toList d.groups.length contents.toList ∧
          2 * (d.groups.length + 1) ≤ outer.chars.length := by
  have hchain : ∀ group contents, classify group = .group contents → ∀ level inner,
      Expands limit contents.toList level inner → 2 * (level + 1) ≤ group.chars.length := by
    intro group contents hgroup level inner hexpands
    have hlength := Token.length_contents? (classify_eq_group_iff.1 hgroup)
    have hinner := hexpands.length_le
    omega
  refine ⟨⟨(Descent.start queue).stepsLeft, ?_, ?_⟩, fun text tokens => tokenize_length, ?_, ?_⟩
  · have hwork := work_le queue
    simp only [Descent.stepsLeft, Descent.start, Descent.workBehind]
    omega
  · have hends : ∃ last, (Descent.start queue).run limit (Descent.start queue).stepsLeft = .ended last :=
      Descent.run_ended (Nat.le_refl _)
    obtain ⟨last, hrun⟩ := hends
    rw [hrun, Descent.run_eq_outcome hrun, Descent.outcome_start]
  · intro group contents hgroup
    exact ⟨Token.length_contents? (classify_eq_group_iff.1 hgroup), hchain group contents hgroup⟩
  · intro steps d item rest contents hrun hitem hgroup
    have hstart : Stacked limit queue (Descent.start queue).groups (Descent.start queue).queue :=
      .queue (List.Subset.refl queue)
    have hcontents := classify_eq_group_iff.1 hgroup
    obtain ⟨outer, houter, outside, houtside, hexpands⟩ :=
      (hstart.run hrun).expands (nextItem?_mem hitem).1 hcontents
    have hclause : classify outer = .group (String.ofList outside) := by
      rw [classify_eq_group_iff, String.toList_ofList, houtside]
    rw [← String.toList_ofList (l := outside)] at hexpands
    exact ⟨outer, houter, _, hclause, hexpands, hchain outer _ hclause _ _ hexpands⟩

example : (Descent.start [⟨.group, "((a)"⟩, ⟨.word, "b"⟩]).run none 1 =
    .ended ⟨.error .unclosedBracket, [⟨.word, "b"⟩], [.expanding "(a"]⟩ := rfl

end TrackSearch.Query
