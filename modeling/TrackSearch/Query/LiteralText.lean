import TrackSearch.Query.Predicate

/-!
Queries for one text in one field, with a backslash before every character of the text so that none of them
means anything to the scan.
-/

namespace TrackSearch.Query

inductive TextField where
  | title
  | artist
  | album
  | tagIncluded
  | tagExcluded
  deriving DecidableEq

namespace TextField

def sign : TextField → List Char
  | title => "t:".toList
  | artist => "a:".toList
  | album => "al:".toList
  | tagIncluded => "+".toList
  | tagExcluded => "-".toList

def asksFor : TextField → String → Predicate
  | title => .titleContains
  | artist => .artistContains
  | album => .albumContains
  | tagIncluded => .tagIncluded
  | tagExcluded => .tagExcluded

end TextField

def backslashed (cs : List Char) : List Char := cs.flatMap fun c => ['\\', c]

def TextField.literal (field : TextField) (text : String) : String :=
  String.ofList (field.sign ++ backslashed text.toList)

end TrackSearch.Query
