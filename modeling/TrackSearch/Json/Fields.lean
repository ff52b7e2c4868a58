import TrackSearch.Text.Numeral
import TrackSearch.Json.Value

/-!
Reading structured values: the named fields of an object, and values of one type. Fields may also be
given as an array in their declared order.
-/

namespace TrackSearch.Json

def text? : Json → Option String
  | .text s => some s
  | _ => none

def bool? : Json → Option Bool
  | .bool b => some b
  | _ => none

def int32? : Json → Option Int32
  | .integer n => Text.int32OfInt? n
  | _ => none

def count? : Json → Option Nat
  | .integer n => if 0 ≤ n ∧ n < UInt64.size then some n.toNat else none
  | _ => none

def array? : Json → Option (List Json)
  | .array items => some items
  | _ => none

def nullable? (read : Json → Option α) : Json → Option (Option α)
  | .null => some none
  | json => (read json).map some

def orElse? (fallback : α) (read : Json → Option α) : Option Json → Option α
  | none => some fallback
  | some json => read json

def required? (read : Json → Option α) (field : Option Json) : Option α := field.bind read

def member? (members : List (String × Json)) (key : String) : Option (Option Json) :=
  match members.filter (·.1 == key) with
  | [] => some none
  | [(_, value)] => some (some value)
  | _ => none

/-- The fields with these names, absent where they are not given. An array gives at least the first
`shortest` of them and nothing more than all; an object may have other members. -/
def fields? (names : List String) (shortest : Nat) : Json → Option (List (Option Json))
  | .object members => names.mapM (member? members)
  | .array items =>
    if shortest ≤ items.length ∧ items.length ≤ names.length then
      some (items.map some ++ List.replicate (names.length - items.length) none)
    else none
  | _ => none

def ofText (s : Option String) : Json := (s.map .text).getD .null

def ofYear (year : Option Int32) : Json := (year.map fun n => .integer n.toInt).getD .null

end TrackSearch.Json
