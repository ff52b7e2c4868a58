import TrackSearch.Text.Blank

/-!
What becomes of the characters of a query. Each one is marked with the place where it stands, and the marks
around it say whether some token keeps it.
-/

namespace TrackSearch.Query

/-- What the text before a character leaves open. -/
structure Place where
  escaped : Bool
  quoted : Bool
  depth : Nat
  deriving DecidableEq

namespace Place

def start : Place := ⟨false, false, 0⟩

/-- The place behind a character. Quotes count only outside brackets, and brackets only outside quotes. -/
def next (p : Place) (c : Char) : Place :=
  if p.escaped then { p with escaped := false }
  else if c = '\\' then { p with escaped := true }
  else if p.depth ≠ 0 then
    { p with depth := if c = '(' then p.depth + 1 else if c = ')' then p.depth - 1 else p.depth }
  else if c = '"' then { p with quoted := !p.quoted }
  else if c = '(' ∧ p.quoted = false then { p with depth := 1 }
  else p

def behind (p : Place) (cs : List Char) : Place := cs.foldl next p

end Place

structure Mark where
  char : Char
  place : Place

def marks (p : Place) : List Char → List Mark
  | [] => []
  | c :: cs => ⟨c, p⟩ :: marks (p.next c) cs

namespace Mark

/-- A backslash that takes the meaning from the next character, outside brackets. -/
def isEscape (m : Mark) : Bool := m.char == '\\' && !m.place.escaped && m.place.depth == 0

def isSeparator (m : Mark) : Bool :=
  Text.isBlank m.char && !m.place.escaped && !m.place.quoted && m.place.depth == 0

def isClosing (m : Mark) : Bool :=
  !m.place.escaped &&
    (m.char == '"' && m.place.quoted && m.place.depth == 0 || m.char == ')' && m.place.depth == 1)

def isTakenBlank (m : Mark) : Bool :=
  Text.isBlank m.char && m.place.escaped && m.place.depth == 0

def spellsBlank (m : Mark) : Bool := m.isEscape || m.isTakenBlank

end Mark

/-- Whether the token being read behind the marks, of which the nearest comes first, has nothing but blanks
so far. -/
def blankSoFar (before : List Mark) : Bool :=
  (before.dropWhile Mark.spellsBlank).head?.all fun m => m.isSeparator || m.isClosing

/-- Whether a token being read in front of the marks gets nothing but blanks from them before it is ended,
as a word, by a separator or by the end of the text. -/
def blankFromHere (after : List Mark) : Bool :=
  (after.dropWhile Mark.spellsBlank).head?.all Mark.isSeparator

/-- Whether no token keeps a character: a backslash that takes the meaning from the next one, a blank
between tokens, or a blank in a word of nothing but blanks. -/
def isRemoved (before : List Mark) (m : Mark) (after : List Mark) : Bool :=
  m.isEscape || m.isSeparator || m.isTakenBlank && blankSoFar before && blankFromHere after

def keptFrom (before : List Mark) : List Mark → List Char
  | [] => []
  | m :: after =>
    (if isRemoved before m after then [] else [m.char]) ++ keptFrom (m :: before) after

def keptChars (query : List Char) : List Char := keptFrom [] (marks .start query)

/-- What the token being read behind a text has so far: all that stands behind the last character that ends
a token, less the backslashes that take the meaning from the next character. -/
def openText (before : List Char) : List Char :=
  let unended := (marks .start before).reverse.takeWhile fun m => !m.isSeparator && !m.isClosing
  (unended.reverse.filter fun m => !m.isEscape).map Mark.char

end TrackSearch.Query
