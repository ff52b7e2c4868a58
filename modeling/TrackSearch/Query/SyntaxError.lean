import TrackSearch.Text.Numeral

/-!
What can be wrong with the text of a query.
-/

namespace TrackSearch.Query

inductive SyntaxError where
  | unclosedQuote
  | unclosedBracket
  | tooDeep (limit : Nat)
  deriving DecidableEq

def SyntaxError.message : SyntaxError → String
  | .unclosedQuote => "unclosed quote"
  | .unclosedBracket => "unclosed bracket"
  | .tooDeep limit => "groups nested deeper than " ++ Text.natText limit

end TrackSearch.Query
