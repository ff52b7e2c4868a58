import TrackSearch.Query.Items
import TrackSearch.Query.Parse

/-!
What a queue of tokens stands for, said of all its items at once: each is built, those that cannot be
read are left out with their relations, and the others are combined from the left.
-/

namespace TrackSearch.Query

structure Operand where
  relation : Option Relation
  predicate : Predicate
  deriving DecidableEq

def Operand.joinTo (before : Predicate) (operand : Operand) : Predicate :=
  match operand.relation with
  | some .or => .or before operand.predicate
  | _ => .and before operand.predicate

/-- The operands combined from the left. Those in front that always hold are passed over. -/
def combine (operands : List Operand) : Predicate :=
  match operands.dropWhile (·.predicate.isAlways) with
  | [] => .always
  | first :: others => others.foldl Operand.joinTo first.predicate

mutual

def Token.meaning? (limit : Option Nat) (t : Token) : Except SyntaxError (Option Predicate) :=
  match _hcontents : t.contents? with
  | none => .ok t.criterion.predicate?
  | some contents =>
    match _htokens : tokenize limit contents with
    | .error e => .error e
    | .ok tokens => (meaning limit tokens).1.map some
termination_by (t.chars.length, 0)
decreasing_by
  have hcontents := Token.length_contents? _hcontents
  have htokens := tokenize_length _htokens
  simp only [Prod.lex_def]
  omega

/-- The predicate that a queue stands for, or the error of the first item that cannot be built; and what
is left of the queue, which is the tokens behind that item. -/
def meaning (limit : Option Nat) (queue : List Token) : Except SyntaxError Predicate × List Token :=
  let operands := (splitItems queue).attach.mapM fun ⟨(item, behind), _hitem⟩ =>
    match item.token.meaning? limit with
    | .error e => Except.error (e, behind)
    | .ok predicate => .ok (predicate.map (Operand.mk item.relation))
  match operands with
  | .error (e, behind) => (.error e, behind)
  | .ok operands => (.ok (combine (operands.filterMap id)), [])
termination_by (totalLength queue, 1)
decreasing_by
  have hlength : item.token.chars.length ≤ totalLength queue := length_le_of_mem_splitItems _hitem
  simp only [Prod.lex_def]
  omega

end

end TrackSearch.Query
