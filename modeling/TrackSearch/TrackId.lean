import TrackSearch.Text.Blank
import TrackSearch.Text.Enclosed
import TrackSearch.Text.Hex

/-!
Track identifiers: 128 bits, written as 32 hexadecimal digits. Several spellings are read, one is
written.
-/

namespace TrackSearch

structure TrackId where
  bits : BitVec 128
  deriving DecidableEq

namespace TrackId

def ofDigits? (cs : List Char) : Option TrackId :=
  if cs.length = 32 then (Text.readHex 0 cs).map fun n => ⟨BitVec.ofNat 128 n⟩ else none

def ofHyphenated? (cs : List Char) : Option TrackId :=
  let groups := cs.splitOn '-'
  if groups.map List.length = [8, 4, 4, 4, 12] then ofDigits? groups.flatten else none

def uuidScheme : List Char := "urn:uuid:".toList

def afterScheme? (cs : List Char) : Option (List Char) :=
  if (cs.take uuidScheme.length).map Char.toLower = uuidScheme then some (cs.drop uuidScheme.length)
  else none

def ofSpelling? (cs : List Char) : Option TrackId :=
  ofDigits? cs <|> ofHyphenated? cs <|> (Text.between? '{' '}' cs).bind ofHyphenated? <|>
    (afterScheme? cs).bind ofHyphenated?

def ofText? (text : String) : Option TrackId := ofSpelling? (Text.trim text.toList)

def hyphenate (cs : List Char) : List Char :=
  cs.take 8 ++ ['-'] ++ (cs.drop 8).take 4 ++ ['-'] ++ (cs.drop 12).take 4 ++ ['-'] ++
    (cs.drop 16).take 4 ++ ['-'] ++ cs.drop 20

def chars (id : TrackId) : List Char := hyphenate (Text.hexDigits 32 id.bits.toNat)

def render (id : TrackId) : String := String.ofList id.chars

end TrackId

end TrackSearch
