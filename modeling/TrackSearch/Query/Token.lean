/-!
Tokens of a query. A token keeps its text as scanned: the quotes of a quoted token and the brackets of
a group belong to it.
-/

namespace TrackSearch.Query

inductive TokenKind where
  | word
  | quoted
  | group
  deriving DecidableEq

def TokenKind.name : TokenKind → String
  | .word => "word"
  | .quoted => "quoted"
  | .group => "group"

structure Token where
  kind : TokenKind
  text : String
  deriving DecidableEq

def Token.chars (t : Token) : List Char := t.text.toList

def totalLength : List Token → Nat
  | [] => 0
  | t :: tokens => t.chars.length + totalLength tokens

theorem totalLength_append (first second : List Token) :
    totalLength (first ++ second) = totalLength first + totalLength second := by
  induction first with
  | nil => simp [totalLength]
  | cons t tokens ih => simp only [List.cons_append, totalLength, ih, Nat.add_assoc]

theorem length_le_totalLength {t : Token} {tokens : List Token} (h : t ∈ tokens) :
    t.chars.length ≤ totalLength tokens := by
  induction tokens with
  | nil => contradiction
  | cons u tokens ih =>
    rw [totalLength]
    rcases List.mem_cons.1 h with rfl | hrest
    · exact Nat.le_add_right ..
    · exact Nat.le_add_left_of_le (ih hrest)

end TrackSearch.Query
