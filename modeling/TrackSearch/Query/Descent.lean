import TrackSearch.Query.Parse

/-!
Parsing in single steps. Where `parseFrom` calls itself on the contents of a group, a step puts the group
on a stack, so that the steps can be counted and the groups that are open seen.
-/

namespace TrackSearch.Query

structure OpenGroup where
  token : Token
  before : Predicate
  relation : Option Relation
  rest : List Token

structure Descent where
  /-- The innermost group comes first. -/
  groups : List OpenGroup
  before : Predicate
  queue : List Token
  events : List Event

inductive Progress where
  | ended (outcome : Parse)
  | going (next : Descent)

namespace Descent

def start (queue : List Token) : Descent := ⟨[], .always, queue, []⟩

/-- The tokens behind the outermost group, which are those that an error leaves in the queue. -/
def behindGroups (rest : List Token) : List OpenGroup → List Token
  | [] => rest
  | g :: groups => behindGroups g.rest groups

def step (limit : Option Nat) (d : Descent) : Progress :=
  match nextItem? d.queue with
  | none =>
    match d.groups with
    | [] => .ended ⟨.ok d.before, [], d.events⟩
    | g :: groups => .going ⟨groups, join g.before g.relation d.before, g.rest, d.events⟩
  | some (item, rest) =>
    match item.token.contents? with
    | none =>
      match item.token.criterion.predicate? with
      | none => .going { d with queue := rest, events := d.events ++ [.dropping item.token.criterion] }
      | some clause => .going { d with before := join d.before item.relation clause, queue := rest }
    | some contents =>
      let events := d.events ++ [.expanding (String.ofList contents)]
      match tokenize limit contents with
      | .error e => .ended ⟨.error e, behindGroups rest d.groups, events⟩
      | .ok tokens =>
        .going ⟨⟨item.token, d.before, item.relation, rest⟩ :: d.groups, .always, tokens, events⟩

def run (limit : Option Nat) : Nat → Descent → Progress
  | 0, d => .going d
  | steps + 1, d =>
    match d.step limit with
    | .ended outcome => .ended outcome
    | .going next => next.run limit steps

end Descent

end TrackSearch.Query
