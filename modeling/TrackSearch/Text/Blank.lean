/-!
Blank characters, and what they delimit: trimming takes them off the ends of a text, words are the
runs between them.
-/

namespace TrackSearch.Text

/-- The characters with the Unicode property White_Space. -/
def isBlank (c : Char) : Bool :=
  let n := c.toNat
  (9 ≤ n && n ≤ 13) || n == 0x20 || n == 0x85 || n == 0xA0 || n == 0x1680 ||
    (0x2000 ≤ n && n ≤ 0x200A) || n == 0x2028 || n == 0x2029 || n == 0x202F || n == 0x205F ||
    n == 0x3000

theorem ne_of_isBlank {c d : Char} (hc : isBlank c = true) (hd : isBlank d = false) : c ≠ d := by
  rintro rfl
  rw [hc] at hd
  contradiction

def allBlank (cs : List Char) : Bool := cs.all isBlank

theorem allBlank_cons (c : Char) (cs : List Char) : allBlank (c :: cs) = (isBlank c && allBlank cs) := rfl

def trimLeft (cs : List Char) : List Char := cs.dropWhile isBlank

def trimRight (cs : List Char) : List Char := (trimLeft cs.reverse).reverse

def trim (cs : List Char) : List Char := trimRight (trimLeft cs)

def endWord (pending : List Char) : List (List Char) :=
  if pending.isEmpty then [] else [pending.reverse]

def wordsFrom (pending : List Char) : List Char → List (List Char)
  | [] => endWord pending
  | c :: cs => if isBlank c then endWord pending ++ wordsFrom [] cs else wordsFrom (c :: pending) cs

def words (cs : List Char) : List (List Char) := wordsFrom [] cs

end TrackSearch.Text
