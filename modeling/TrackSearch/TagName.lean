import TrackSearch.Text.Blank
import TrackSearch.Text.Lowercase

/-!
Tag names in their normal form: lowercase, with single spaces between words. Letters are lowercased
one by one, wherever they stand in a word.
-/

namespace TrackSearch

namespace TagName

def joinWords (words : List (List Char)) : List Char := List.intercalate [' '] words

def normalize? (cs : List Char) : Option (List Char) :=
  match Text.words cs with
  | [] => none
  | words => some (joinWords (words.map Text.lowerEach))

end TagName

/-- A name that some text has for its normal form. -/
structure TagName where
  text : String
  isNormal : ∃ cs, TagName.normalize? cs = some text.toList
  deriving DecidableEq

namespace TagName

def ofText? (text : String) : Option TagName :=
  match h : normalize? text.toList with
  | some cs => some ⟨String.ofList cs, text.toList, h.trans (by rw [String.toList_ofList])⟩
  | none => none

def invalidMessage : String := "invalid tag name"

end TagName

end TrackSearch
