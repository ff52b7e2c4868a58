import TrackSearch.Text.Lowercase.Run
import TrackSearch.Text.Lowercase.Context

/-!
Full Unicode lowercase. One character goes to one character, but for the dotted capital i; in a whole
text a capital sigma that ends a word becomes the final sigma.
-/

namespace TrackSearch.Text

def lowerChar (c : Char) : List Char :=
  if c.toNat = 0x130 then ['i', Char.ofNat 0x307]
  else
    match lowercaseIn c.toNat caseRuns with
    | some n => [Char.ofNat n]
    | none => [c]

def lowerEach (cs : List Char) : List Char := cs.flatMap lowerChar

def leadsToCased (cs : List Char) : Bool :=
  match cs.dropWhile isCaseIgnorable with
  | c :: _ => isCased c
  | [] => false

def capitalSigma : Char := 'Σ'

/-- The lowercase sigma between the texts `before`, spelled backwards, and `after`. -/
def lowerSigma (before after : List Char) : Char :=
  if leadsToCased before && !leadsToCased after then 'ς' else 'σ'

def lowerFrom (before : List Char) : List Char → List Char
  | [] => []
  | c :: cs =>
    (if c = capitalSigma then [lowerSigma before cs] else lowerChar c) ++ lowerFrom (c :: before) cs

def lower (cs : List Char) : List Char := lowerFrom [] cs

end TrackSearch.Text
