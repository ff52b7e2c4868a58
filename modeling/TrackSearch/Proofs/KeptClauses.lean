import TrackSearch.Command.Log
import TrackSearch.Proofs.ParsedShape
import TrackSearch.Query.Clauses
import TrackSearch.Query.Leaves

/-! Nothing of a query is lost. Its clauses, groups opened, are the leaves of the predicate and the
criteria reported as left out, each clause once and in order. -/

namespace TrackSearch.Query

namespace Predicate

theorem leaves_of_leaf {p : Predicate} (h : (p.isAlways || p.isCombined) = false) : p.leaves = [p] := by
  cases p <;> simp_all [isAlways, isCombined, leaves]

end Predicate

def readable (ts : List Token) : List Predicate := ts.filterMap fun t => t.criterion.predicate?

def unreadable (ts : List Token) : List Criterion :=
  (ts.filter fun t => t.criterion.predicate?.isNone).map Token.criterion

theorem readable_append (first second : List Token) :
    readable (first ++ second) = readable first ++ readable second := List.filterMap_append

theorem unreadable_append (first second : List Token) :
    unreadable (first ++ second) = unreadable first ++ unreadable second := by
  simp only [unreadable, List.filter_append, List.map_append]

theorem parseFrom_keeps {before p : Predicate} {queue : List Token}
    (h : (parseFrom none before queue).result = .ok p) :
    p.leaves = before.leaves ++ readable (clauses queue) ∧
      (parseFrom none before queue).events.filterMap Event.dropped? = unreadable (clauses queue) := by
  induction before, queue using parseFrom.induct none generalizing p with
  | case1 before queue hitem =>
    rw [parseFrom_end hitem] at h ⊢
    obtain rfl := Except.ok.inj h
    rw [clauses_of_none hitem]
    exact ⟨(List.append_nil _).symm, rfl⟩
  | case2 before queue item rest hitem hcontents hvalue ih =>
    rw [parseFrom_dropped hitem hcontents hvalue] at h ⊢
    rw [clauses_of_some hitem, Token.clauses_of_criterion hcontents, readable_append, unreadable_append]
    obtain ⟨hleaves, hevents⟩ := ih h
    have hreadable : readable [item.token] = [] := by simp [readable, hvalue]
    have hunreadable : unreadable [item.token] = [item.token.criterion] := by simp [unreadable, hvalue]
    rw [hreadable, hunreadable]
    exact ⟨hleaves, congrArg (item.token.criterion :: ·) hevents⟩
  | case3 before queue item rest hitem hcontents clause hvalue ih =>
    rw [parseFrom_criterion hitem hcontents hvalue] at h ⊢
    rw [clauses_of_some hitem, Token.clauses_of_criterion hcontents, readable_append, unreadable_append]
    obtain ⟨hleaves, hevents⟩ := ih h
    have hclause := Predicate.leaves_of_leaf (predicate?_eq_some hvalue).1
    have hreadable : readable [item.token] = [clause] := by simp [readable, hvalue]
    have hunreadable : unreadable [item.token] = [] := by simp [unreadable, hvalue]
    rw [hreadable, hunreadable, hleaves, leaves_join, hclause, List.append_assoc]
    exact ⟨rfl, hevents⟩
  | case4 before queue item rest hitem contents hcontents e htokens =>
    rw [parseFrom_unscanned hitem hcontents htokens] at h
    contradiction
  | case5 =>
    next hitem _ hcontents _ htokens _ _ hinner _ =>
    rw [parseFrom_failed hitem hcontents htokens hinner] at h
    contradiction
  | case6 =>
    next hitem _ hcontents _ htokens _ _ hinner ihinner ih =>
    rw [parseFrom_group hitem hcontents htokens hinner] at h ⊢
    rw [clauses_of_some hitem, Token.clauses_of_group hcontents htokens, readable_append,
      unreadable_append]
    obtain ⟨hclause, hinside⟩ := ihinner hinner
    obtain ⟨hleaves, hbehind⟩ := ih h
    constructor
    · rw [hleaves, leaves_join, hclause, List.append_assoc]
      rfl
    · rw [← hinside, ← hbehind, ← List.filterMap_append]
      rfl

theorem ofChars_of_raw (cs : List Char) :
    ((Criterion.ofChars cs).field = .year →
        cs = "y:".toList ++ (Criterion.ofChars cs).operand.toList) ∧
      ((Criterion.ofChars cs).field = .explicit →
        cs = "e:".toList ++ (Criterion.ofChars cs).operand.toList) := by
  unfold Criterion.ofChars Criterion.unquoted
  split <;> simp

theorem text_of_unreadable {t : Token} (h : t.criterion.predicate? = none) :
    t.criterion.field = .year ∧ t.text = "y:" ++ t.criterion.operand ∨
      t.criterion.field = .explicit ∧ t.text = "e:" ++ t.criterion.operand := by
  rcases Criterion.predicate?_eq_none_iff.1 h with ⟨hfield, -⟩ | ⟨hfield, -⟩
  · refine Or.inl ⟨hfield, String.toList_injective ?_⟩
    rw [String.toList_append]
    exact (ofChars_of_raw t.chars).1 hfield
  · refine Or.inr ⟨hfield, String.toList_injective ?_⟩
    rw [String.toList_append]
    exact (ofChars_of_raw t.chars).2 hfield

open Command

/-- The token is one leaf, or it is named in one line of the log with all that stands behind its field. -/
def Token.IsKept (t : Token) : Prop :=
  t.contents? = none ∧
    ((∃ leaf, t.criterion.predicate? = some leaf ∧ leaf.leaves = [leaf]) ∨
      ∃ raw, t.criterion.predicate? = none ∧
        (t.text = "y:" ++ raw ∧ LogLine.ofEvent (.dropping t.criterion) =
            ⟨.debug, .parser, "dropping year clause", [("value", LogLine.quoted raw)]⟩ ∨
          t.text = "e:" ++ raw ∧ LogLine.ofEvent (.dropping t.criterion) =
            ⟨.debug, .parser, "dropping explicit clause", [("value", LogLine.quoted raw)]⟩))

theorem isKept_of_mem_clauses {queue : List Token} {t : Token} (h : t ∈ clauses queue) : t.IsKept := by
  refine ⟨contents?_of_mem_clauses h, ?_⟩
  cases hvalue : t.criterion.predicate? with
  | some leaf => exact Or.inl ⟨leaf, rfl, Predicate.leaves_of_leaf (predicate?_eq_some hvalue).1⟩
  | none =>
    refine Or.inr ⟨t.criterion.operand, rfl, ?_⟩
    rcases text_of_unreadable hvalue with ⟨hfield, htext⟩ | ⟨hfield, htext⟩
    · exact Or.inl ⟨htext, by rw [LogLine.ofEvent, hfield]; rfl⟩
    · exact Or.inr ⟨htext, by rw [LogLine.ofEvent, hfield]; rfl⟩

/-- Of a query that compiles, the clauses that can be read are the leaves of the predicate, and the others
are those that parsing reports, each of them once and in the order of the query. -/
theorem compile_keeps_clauses {compiler : Compiler} {query : String} {p : Predicate}
    (h : compiler.compile query = .ok p) :
    ∃ tokens, compiler.tokenize query = .ok tokens ∧ p.leaves = readable (clauses tokens) ∧
      (parse compiler.maxDepth tokens).events.filterMap Event.dropped? = unreadable (clauses tokens) ∧
      ∀ t ∈ clauses tokens, t.IsKept := by
  obtain ⟨tokens, htokens, hparse⟩ := Compiler.tokens_of_compile h
  obtain ⟨hleaves, hevents⟩ := parseFrom_keeps hparse
  refine ⟨tokens, htokens, hleaves, ?_, fun t ht => isKept_of_mem_clauses ht⟩
  rw [parse_of_tokenize htokens]
  exact hevents

theorem compile_keeps_clauses_in_groups :
    (Compiler.mk (some 1)).compile "(y:x -b) OR e:maybe" = .ok (.tagExcluded "b") ∧
      ∃ tokens, (Compiler.mk (some 1)).tokenize "(y:x -b) OR e:maybe" = .ok tokens ∧
        (Predicate.tagExcluded "b").leaves = readable (clauses tokens) ∧
        (parse (some 1) tokens).events.filterMap Event.dropped? = unreadable (clauses tokens) ∧
        ∀ t ∈ clauses tokens, t.IsKept := by
  have htokens : (Compiler.mk (some 1)).tokenize "(y:x -b) OR e:maybe" =
      .ok [⟨.group, "(y:x -b)"⟩, ⟨.word, "OR"⟩, ⟨.word, "e:maybe"⟩] := rfl
  have hgroup : tokenize none "y:x -b".toList = .ok [⟨.word, "y:x"⟩, ⟨.word, "-b"⟩] := rfl
  have hyear : (⟨.word, "y:x"⟩ : Token).criterion.predicate? = none := by decide
  have hflag : (⟨.word, "e:maybe"⟩ : Token).criterion.predicate? = none := by decide
  have hinner : (parse none [⟨.word, "y:x"⟩, ⟨.word, "-b"⟩]).result = .ok (.tagExcluded "b") := by
    rw [parse, parseFrom_dropped rfl rfl hyear, parseFrom_criterion rfl rfl rfl, parseFrom_end rfl]
    rfl
  have h : (Compiler.mk (some 1)).compile "(y:x -b) OR e:maybe" = .ok (.tagExcluded "b") := by
    rw [Compiler.compile_of_ok _ htokens, parse, parseFrom_group rfl rfl hgroup hinner,
      parseFrom_dropped rfl rfl hflag, parseFrom_end rfl]
    rfl
  exact ⟨h, compile_keeps_clauses h⟩

end TrackSearch.Query
