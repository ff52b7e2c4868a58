import TrackSearch.Query.Event
import TrackSearch.Query.Item
import TrackSearch.Query.Scan
import TrackSearch.Query.Value

/-!
Folding a queue of tokens into a predicate. Clauses combine from the left, and and or bind alike; a
clause without a relation is joined with and. The contents of a group are scanned when it is reached.
-/

namespace TrackSearch.Query

namespace Scan

theorem flush_length (s : Scan) :
    totalLength s.flush.1.toList + s.flush.2.pending.length ≤ s.pending.length := by
  unfold flush
  split <;> simp [totalLength, Token.chars, text]

theorem read_length (s : Scan) (c : Char) :
    totalLength (s.read c).1.toList + (s.read c).2.pending.length ≤ s.pending.length + 1 := by
  unfold read readOutside readInside
  have := s.flush_length
  repeat' split
  all_goals simp [totalLength, Token.chars, text] at *
  omega

theorem readAll_length {limit : Option Nat} {s last : Scan} {cs : List Char} {tokens : List Token}
    (h : s.readAll limit cs = .ok (tokens, last)) :
    totalLength tokens + last.pending.length ≤ s.pending.length + cs.length := by
  induction cs generalizing s tokens with
  | nil =>
    simp only [readAll, Except.ok.injEq, Prod.mk.injEq] at h
    obtain ⟨rfl, rfl⟩ := h
    simp [totalLength]
  | cons c cs ih =>
    simp only [readAll] at h
    split at h
    · simp at h
    · split at h
      · simp at h
      · next hrest =>
        simp only [Except.ok.injEq, Prod.mk.injEq] at h
        obtain ⟨rfl, rfl⟩ := h
        have htail := ih hrest
        have hread := s.read_length c
        simp only [totalLength_append, List.length_cons]
        omega

end Scan

theorem tokenize_length {limit : Option Nat} {query : List Char} {tokens : List Token}
    (h : tokenize limit query = .ok tokens) : totalLength tokens ≤ query.length := by
  unfold tokenize at h
  split at h
  · simp at h
  · next read last hread =>
    have hlength := Scan.readAll_length hread
    have hflush := last.flush_length
    simp only [Scan.finish] at h
    split at h
    · simp [Except.map] at h
    · split at h
      · simp [Except.map] at h
      · simp only [Except.map, Except.ok.injEq] at h
        subst h
        simp only [Scan.start, List.length_nil] at hlength
        simp only [totalLength_append]
        omega

/-- The outcome of parsing a queue: the tokens left in it are those after the failing group. -/
structure Parse where
  result : Except SyntaxError Predicate
  remaining : List Token
  events : List Event

/-- Joins a clause to what comes before it. Where that holds for every record, the clause replaces it
and the relation between them is lost. -/
def join (before : Predicate) (relation : Option Relation) (clause : Predicate) : Predicate :=
  if before.isAlways then clause
  else
    match relation with
    | some .or => .or before clause
    | _ => .and before clause

def parseFrom (limit : Option Nat) (before : Predicate) (queue : List Token) : Parse :=
  match _hitem : nextItem? queue with
  | none => ⟨.ok before, [], []⟩
  | some (item, rest) =>
    match _hcontents : item.token.contents? with
    | none =>
      match item.token.criterion.predicate? with
      | none =>
        let after := parseFrom limit before rest
        { after with events := .dropping item.token.criterion :: after.events }
      | some clause => parseFrom limit (join before item.relation clause) rest
    | some contents =>
      let expanding := Event.expanding (String.ofList contents)
      match _htokens : tokenize limit contents with
      | .error e => ⟨.error e, rest, [expanding]⟩
      | .ok tokens =>
        let inner := parseFrom limit .always tokens
        match inner.result with
        | .error e => ⟨.error e, rest, expanding :: inner.events⟩
        | .ok clause =>
          let after := parseFrom limit (join before item.relation clause) rest
          { after with events := expanding :: (inner.events ++ after.events) }
termination_by (totalLength queue, queue.length)
decreasing_by
  all_goals
    have hlength := nextItem?_length _hitem
    have htotal := nextItem?_totalLength _hitem
    first
    | have hcontents := Token.length_contents? _hcontents
      have htokens := tokenize_length _htokens
      simp only [Prod.lex_def]
      omega
    | simp only [Prod.lex_def]
      omega

def parse (limit : Option Nat) (queue : List Token) : Parse := parseFrom limit .always queue

end TrackSearch.Query
