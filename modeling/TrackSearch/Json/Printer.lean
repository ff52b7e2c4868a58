import TrackSearch.Text.Enclosed
import TrackSearch.Text.Hex
import TrackSearch.Text.Numeral
import TrackSearch.Json.Value

/-!
Writing JSON with one item or member on a line, each level two spaces further in.
-/

namespace TrackSearch.Json

def escapeChar (c : Char) : List Char :=
  if c = '"' then ['\\', '"']
  else if c = '\\' then ['\\', '\\']
  else if c.toNat = 0x08 then ['\\', 'b']
  else if c.toNat = 0x0C then ['\\', 'f']
  else if c.toNat = 0x0A then ['\\', 'n']
  else if c.toNat = 0x0D then ['\\', 'r']
  else if c.toNat = 0x09 then ['\\', 't']
  else if c.toNat < 0x20 then ['\\', 'u'] ++ Text.hexDigits 4 c.toNat
  else [c]

def quoted (text : String) : List Char := Text.enclose '"' '"' (text.toList.flatMap escapeChar)

def newLine (level : Nat) : List Char := '\n' :: List.replicate (2 * level) ' '

def lines (opening closing : Char) (level : Nat) : List (List Char) → List Char
  | [] => [opening, closing]
  | parts =>
    Text.enclose opening closing
      (List.intercalate [','] (parts.map (newLine (level + 1) ++ ·)) ++ newLine level)

mutual

def charsAt (level : Nat) : Json → List Char
  | .null => "null".toList
  | .bool value => (if value then "true" else "false").toList
  | .integer value => Text.showInt value
  | .text value => quoted value
  | .array items => lines '[' ']' level (itemsAt (level + 1) items)
  | .object members => lines '{' '}' level (membersAt (level + 1) members)
  | .unusable => "0.0".toList

def itemsAt (level : Nat) : List Json → List (List Char)
  | [] => []
  | item :: items => charsAt level item :: itemsAt level items

def membersAt (level : Nat) : List (String × Json) → List (List Char)
  | [] => []
  | (key, value) :: members =>
    (quoted key ++ ": ".toList ++ charsAt level value) :: membersAt level members

end

def pretty (json : Json) : String := String.ofList (charsAt 0 json)

end TrackSearch.Json
