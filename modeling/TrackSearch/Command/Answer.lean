import TrackSearch.Json.Printer
import TrackSearch.Listing
import TrackSearch.Query.JsonForm
import TrackSearch.Query.Render
import TrackSearch.Query.Token

/-!
What a run that succeeds has found, and its two forms: lines of text, and JSON.
-/

namespace TrackSearch.Command

inductive Answer where
  | tokens (tokens : List Query.Token)
  | predicate (predicate : Query.Predicate)
  | tracks (tracks : List Track)
  | track (track : Track)
  | tags (counts : List TagCount)

namespace Answer

def tokenLine (t : Query.Token) : String := t.kind.name ++ "\t" ++ t.text

def explanation (p : Query.Predicate) : String :=
  if p.isAlways then "matches every track" else p.render

def trackLine (t : Track) : String :=
  let before (separator : String) (field : Option String) : String :=
    (field.map (separator ++ ·)).getD ""
  t.id.render ++ "  " ++ t.title ++ before " / " t.artist ++ before " / " t.album ++
    before " (" (t.year.map fun year => Text.intText year.toInt ++ ")") ++
    if t.explicit then " [E]" else ""

def trackLines (t : Track) : List String :=
  let named (name : String) (field : Option String) : List String :=
    (field.map (name ++ ": " ++ ·)).toList
  ["id: " ++ t.id.render, "title: " ++ t.title] ++ named "artist" t.artist ++
    named "album" t.album ++ named "year" (t.year.map fun year => Text.intText year.toInt) ++
    ["explicit: " ++ if t.explicit then "yes" else "no"] ++
    if t.tags.isEmpty then [] else ["tags: " ++ String.intercalate ", " (t.tags.map (·.text))]

def countLine (c : TagCount) : String := c.name ++ " (" ++ Text.natText c.count ++ ")"

def orNothing (nothing : String) (lines : List String) : List String :=
  if lines.isEmpty then [nothing] else lines

def lines : Answer → List String
  | tokens found => found.map tokenLine
  | predicate p => [explanation p]
  | tracks found => orNothing "no tracks" (found.map trackLine)
  | track t => trackLines t
  | tags counts => orNothing "no tags" (counts.map countLine)

def tokenJson (t : Query.Token) : Json :=
  .object [("kind", .text t.kind.name), ("text", .text t.text)]

def entryJson (t : Track) : Json := (TrackEntry.ofTrack t).toJson

def toJson : Answer → Json
  | tokens found => .array (found.map tokenJson)
  | predicate p => p.toJson
  | tracks found => .array (found.map entryJson)
  | track t => entryJson t
  | tags counts => .array (counts.map TagCount.toJson)

def unlines (lines : List String) : String := String.join (lines.map (· ++ "\n"))

def render (answer : Answer) (json : Bool) : String :=
  unlines (if json then [answer.toJson.pretty] else answer.lines)

end Answer

end TrackSearch.Command
