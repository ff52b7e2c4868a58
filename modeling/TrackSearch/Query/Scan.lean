import TrackSearch.Text.Blank
import TrackSearch.Query.SyntaxError
import TrackSearch.Query.Token

/-!
Scanning a query into tokens, one character at a time. Blanks separate tokens, a closing quote or the
bracket that closes a group ends one, and a backslash takes away the meaning of the next character.
A group is kept as it is written, backslashes included, because its contents are scanned again.
-/

namespace TrackSearch.Query

structure Scan where
  /-- The token that is being read, last character first. -/
  pending : List Char
  escaped : Bool
  inQuotes : Bool
  depth : Nat
  /-- Whether the outermost open bracket is the first character of the token. -/
  leads : Bool
  deriving DecidableEq

namespace Scan

def start : Scan := ⟨[], false, false, 0, false⟩

def text (s : Scan) : String := String.ofList s.pending.reverse

def flush (s : Scan) : Option Token × Scan :=
  (if Text.allBlank s.pending then none else some ⟨.word, s.text⟩, { s with pending := [] })

def readOutside (s : Scan) (c : Char) : Option Token × Scan :=
  if s.escaped then (none, { s with escaped := false, pending := c :: s.pending })
  else if c = '\\' then (none, { s with escaped := true })
  else if c = '"' then
    let read := { s with pending := c :: s.pending }
    if s.inQuotes then (some ⟨.quoted, read.text⟩, { s with inQuotes := false, pending := [] })
    else (none, { read with inQuotes := true })
  else if c = '(' ∧ s.inQuotes = false then
    (none, { s with leads := s.pending.isEmpty, depth := 1, pending := c :: s.pending })
  else if Text.isBlank c ∧ s.inQuotes = false then s.flush
  else (none, { s with pending := c :: s.pending })

/-- Inside brackets a bracket that closes the outermost one ends the token. -/
def readInside (s : Scan) (c : Char) : Option Token × Scan :=
  let read := { s with pending := c :: s.pending }
  if s.escaped then (none, { read with escaped := false })
  else if c = '\\' then (none, { read with escaped := true })
  else if c = '(' then (none, { read with depth := s.depth + 1 })
  else if c = ')' then
    if s.depth = 1 then
      (some ⟨if s.leads then .group else .word, read.text⟩, { s with depth := 0, pending := [] })
    else (none, { read with depth := s.depth - 1 })
  else (none, read)

def read (s : Scan) (c : Char) : Option Token × Scan :=
  if s.depth = 0 then s.readOutside c else s.readInside c

def readAll (limit : Option Nat) (s : Scan) : List Char → Except SyntaxError (List Token × Scan)
  | [] => .ok ([], s)
  | c :: cs =>
    let (token, next) := s.read c
    match limit.filter (· < next.depth) with
    | some n => .error (.tooDeep n)
    | none =>
      match next.readAll limit cs with
      | .error e => .error e
      | .ok (tokens, last) => .ok (token.toList ++ tokens, last)

def finish (s : Scan) : Except SyntaxError (Option Token) :=
  if s.inQuotes then .error .unclosedQuote
  else if s.depth ≠ 0 then .error .unclosedBracket
  else .ok s.flush.1

end Scan

def tokenize (limit : Option Nat) (query : List Char) : Except SyntaxError (List Token) :=
  match Scan.start.readAll limit query with
  | .error e => .error e
  | .ok (tokens, last) => last.finish.map (tokens ++ ·.toList)

end TrackSearch.Query
