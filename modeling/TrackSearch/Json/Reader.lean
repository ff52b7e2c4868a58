import TrackSearch.Json.Lexeme

/-!
Reading a JSON value from its lexemes. The containers that are open are kept in a list, so that values
may nest as deep as they like.
-/

namespace TrackSearch.Json

/-- A container that is open around the value being read. What it holds so far is kept backwards, and
a key is absent where it has an unpaired surrogate. -/
inductive Frame where
  | array (items : List Json)
  | object (members : List (Option String × Json)) (key : Option String)

inductive Building where
  | value (frames : List Frame)
  | firstItem (frames : List Frame)
  | firstKey (frames : List Frame)
  | key (frames : List Frame) (members : List (Option String × Json))
  | colon (frames : List Frame) (members : List (Option String × Json)) (key : Option String)
  | after (frames : List Frame) (value : Json)

def textValue : Option String → Json
  | some s => .text s
  | none => .unusable

def keyed? : List (Option String × Json) → Option (List (String × Json))
  | [] => some []
  | (some key, value) :: rest => (keyed? rest).map ((key, value) :: ·)
  | (none, _) :: _ => none

def objectValue (members : List (Option String × Json)) : Json :=
  match keyed? members with
  | some members => .object members
  | none => .unusable

def startValue? (frames : List Frame) : Lexeme → Option Building
  | .openArray => some (.firstItem frames)
  | .openObject => some (.firstKey frames)
  | .scalar value => some (.after frames value)
  | .text value => some (.after frames (textValue value))
  | _ => none

def startKey? (frames : List Frame) (members : List (Option String × Json)) :
    Lexeme → Option Building
  | .text key => some (.colon frames members key)
  | _ => none

def endValue? (value : Json) : List Frame → Lexeme → Option Building
  | .array items :: frames, .comma => some (.value (.array (value :: items) :: frames))
  | .array items :: frames, .closeArray => some (.after frames (.array (value :: items).reverse))
  | .object members key :: frames, .comma => some (.key frames ((key, value) :: members))
  | .object members key :: frames, .closeObject =>
    some (.after frames (objectValue ((key, value) :: members).reverse))
  | _, _ => none

def Building.step? (lexeme : Lexeme) : Building → Option Building
  | .value frames => startValue? frames lexeme
  | .firstItem frames =>
    match lexeme with
    | .closeArray => some (.after frames (.array []))
    | lexeme => startValue? (.array [] :: frames) lexeme
  | .firstKey frames =>
    match lexeme with
    | .closeObject => some (.after frames (.object []))
    | lexeme => startKey? frames [] lexeme
  | .key frames members => startKey? frames members lexeme
  | .colon frames members last =>
    match lexeme with
    | .colon => some (.value (.object members last :: frames))
    | _ => none
  | .after frames last => endValue? last frames lexeme

def Building.finish? : Building → Option Json
  | .after [] last => some last
  | _ => none

def build? (building : Building) : List Lexeme → Option Json
  | [] => building.finish?
  | lexeme :: lexemes =>
    match building.step? lexeme with
    | none => none
    | some next => build? next lexemes

def read? (text : String) : Option Json := (lexemes? text.toList).bind (build? (.value []))

end TrackSearch.Json
