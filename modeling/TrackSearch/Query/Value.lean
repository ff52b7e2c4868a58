import TrackSearch.Text.Lowercase
import TrackSearch.Text.Numeral
import TrackSearch.Query.Clause
import TrackSearch.Query.Predicate

/-!
Reading the operand of a criterion. Every text is fine as a text; a year or a flag may be unreadable.
-/

namespace TrackSearch.Query

def rangeOf? : Option Int32 → Option Int32 → Option Predicate
  | none, none => none
  | min, max => some (.yearRange min max)

/-- A year, or two ends with a dash between them, either of which may be unreadable. -/
def readYears? (cs : List Char) : Option Predicate :=
  match cs.splitOn '-' with
  | [year] => (Text.readInt32? year).map .yearEquals
  | [min, max] => rangeOf? (Text.readInt32? min) (Text.readInt32? max)
  | _ => none

def readFlag? (cs : List Char) : Option Bool :=
  let word := String.ofList (Text.lower cs)
  if word ∈ ["1", "true", "yes", "on"] then some true
  else if word ∈ ["0", "false", "no", "off"] then some false
  else none

def Criterion.predicate? (c : Criterion) : Option Predicate :=
  match c.field with
  | .title => some (.titleContains c.operand)
  | .artist => some (.artistContains c.operand)
  | .album => some (.albumContains c.operand)
  | .year => readYears? c.operand.toList
  | .explicit => (readFlag? c.operand.toList).map .explicitIs
  | .tagIncluded => some (.tagIncluded c.operand)
  | .tagExcluded => some (.tagExcluded c.operand)
  | .freeText => some (.freeText c.operand)

theorem Criterion.predicate?_eq_none_iff {c : Criterion} :
    c.predicate? = none ↔ c.field = .year ∧ readYears? c.operand.toList = none ∨
      c.field = .explicit ∧ readFlag? c.operand.toList = none := by
  unfold predicate?
  cases c.field <;> simp

end TrackSearch.Query
