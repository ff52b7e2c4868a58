import TrackSearch.Json.Fields
import TrackSearch.Json.Reader
import TrackSearch.Query.Predicate

/-!
Predicates as JSON values: an object with one member, whose key says what kind of predicate it is, or
a text for the one that always holds.
-/

namespace TrackSearch.Query.Predicate

def nestingLimit : Nat := 127

def nesting : Predicate → Nat
  | always => 0
  | and left right => 2 + max left.nesting right.nesting
  | or left right => 2 + max left.nesting right.nesting
  | yearRange _ _ => 2
  | _ => 1

def toJson : Predicate → Json
  | always => .text "true"
  | and left right => .object [("and", .array [left.toJson, right.toJson])]
  | or left right => .object [("or", .array [left.toJson, right.toJson])]
  | titleContains text => .object [("title_contains", .text text)]
  | artistContains text => .object [("artist_contains", .text text)]
  | albumContains text => .object [("album_contains", .text text)]
  | yearEquals year => .object [("year_equals", .integer year.toInt)]
  | yearRange min max =>
    .object [("year_range", .object [("min", Json.ofYear min), ("max", Json.ofYear max)])]
  | explicitIs flag => .object [("explicit_is", .bool flag)]
  | tagIncluded name => .object [("tag_included", .text name)]
  | tagExcluded name => .object [("tag_excluded", .text name)]
  | freeText text => .object [("free_text", .text text)]

def rangeOfJson? (json : Json) : Option Predicate :=
  match Json.fields? ["min", "max"] 2 json with
  | some [min, max] => do
    let min ← Json.orElse? none (Json.nullable? Json.int32?) min
    let max ← Json.orElse? none (Json.nullable? Json.int32?) max
    some (yearRange min max)
  | _ => none

def leafOfJson? (kind : String) (json : Json) : Option Predicate :=
  match kind with
  | "true" => match json with | .null => some always | _ => none
  | "title_contains" => json.text?.map titleContains
  | "artist_contains" => json.text?.map artistContains
  | "album_contains" => json.text?.map albumContains
  | "year_equals" => json.int32?.map yearEquals
  | "explicit_is" => json.bool?.map explicitIs
  | "tag_included" => json.text?.map tagIncluded
  | "tag_excluded" => json.text?.map tagExcluded
  | "free_text" => json.text?.map freeText
  | _ => none

def ofRelation? (kind : String) (left right : Predicate) : Option Predicate :=
  match kind with
  | "and" => some (and left right)
  | "or" => some (or left right)
  | _ => none

def ofJson? : Nat → Json → Option Predicate
  | _, .text "true" => some always
  | room + 2, .object [(kind, .array [left, right])] =>
    match kind with
    | "year_range" => rangeOfJson? (.array [left, right])
    | kind => do ofRelation? kind (← ofJson? room left) (← ofJson? room right)
  | room + 1, .object [(kind, json)] =>
    match kind with
    | "year_range" => if room = 0 then none else rangeOfJson? json
    | kind => leafOfJson? kind json
  | _, _ => none

def ofText? (text : String) : Option Predicate := (Json.read? text).bind (ofJson? nestingLimit)

end TrackSearch.Query.Predicate
