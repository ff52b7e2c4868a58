import TrackSearch.Text.Enclosed
import TrackSearch.Query.Token

/-!
What a token asks for: the contents of a group, or a criterion on one field. A criterion carries its
operand as text; years and flags are read from it later, so that a value that cannot be read is left
out of the query.
-/

namespace TrackSearch.Query

inductive Field where
  | title
  | artist
  | album
  | year
  | explicit
  | tagIncluded
  | tagExcluded
  | freeText
  deriving DecidableEq

structure Criterion where
  field : Field
  operand : String
  deriving DecidableEq

inductive Clause where
  | group (contents : String)
  | criterion (criterion : Criterion)
  deriving DecidableEq

def stripQuotes (cs : List Char) : List Char := (Text.between? '"' '"' cs).getD cs

def Criterion.unquoted (field : Field) (cs : List Char) : Criterion :=
  ⟨field, String.ofList (stripQuotes cs)⟩

def Criterion.ofChars : List Char → Criterion
  | 't' :: ':' :: rest => unquoted .title rest
  | 'a' :: ':' :: rest => unquoted .artist rest
  | 'a' :: 'l' :: ':' :: rest => unquoted .album rest
  | 'y' :: ':' :: rest => ⟨.year, String.ofList rest⟩
  | 'e' :: ':' :: rest => ⟨.explicit, String.ofList rest⟩
  | '+' :: rest => unquoted .tagIncluded rest
  | '-' :: rest => unquoted .tagExcluded rest
  | cs => unquoted .freeText cs

def Token.criterion (t : Token) : Criterion := .ofChars t.chars

def Token.contents? (t : Token) : Option (List Char) :=
  if t.kind = .group then Text.between? '(' ')' t.chars else none

def classify (t : Token) : Clause :=
  match t.contents? with
  | some contents => .group (String.ofList contents)
  | none => .criterion t.criterion

theorem classify_eq_group_iff {t : Token} {contents : String} :
    classify t = .group contents ↔ t.contents? = some contents.toList := by
  unfold classify
  cases t.contents? with
  | none => simp
  | some cs =>
    simp only [Clause.group.injEq, Option.some.injEq]
    exact ⟨fun h => h ▸ String.toList_ofList.symm, fun h => h ▸ String.ofList_toList⟩

theorem Token.length_contents? {t : Token} {contents : List Char} (h : t.contents? = some contents) :
    contents.length + 2 = t.chars.length := by
  simp only [Token.contents?, Option.ite_none_right_eq_some] at h
  exact Text.length_between? h.2

end TrackSearch.Query
