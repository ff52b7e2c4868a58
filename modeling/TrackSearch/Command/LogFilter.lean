import TrackSearch.Command.Log

/-!
Which lines of the log are shown is up to a library, and so is how they are written. Its usual settings are
lists of directives. Each gives a level, by its name or its number, up to which lines are shown, be it all
lines or those from the parts of the program whose names have a given start. The longest such start decides,
and of equal ones the last. Directives about spans and values are left out.
-/

namespace TrackSearch.Command

class Logging where
  /-- The lines that a setting lets through, if it can be read. -/
  filter? : String → Option (LogLine → Bool)
  write : LogLine → String

structure LogDirective where
  start : List Char
  rank : Nat
  deriving DecidableEq

namespace LogDirective

def rank? (word : List Char) : Option Nat :=
  match Level.ofName? (String.ofList word) with
  | some level => some level.rank
  | none =>
    if word.map Char.toLower = "off".toList then some 0
    else (Text.readNat? word).filter (· ≤ Level.trace.rank)

def canStart (c : Char) : Bool := c.isAlphanum || ['-', ':', '_', '['].contains c

/-- A directive without a level is for all levels, and one without a start for all parts. -/
def ofChars? (cs : List Char) : Option LogDirective :=
  if cs.head?.any canStart then
    match cs.splitOn '=' with
    | [word] =>
      match rank? word with
      | some rank => some ⟨[], rank⟩
      | none => some ⟨word, Level.trace.rank⟩
    | [start, []] => some ⟨start, Level.trace.rank⟩
    | [start, word] => (rank? word).map fun rank => ⟨start, rank⟩
    | _ => none
  else none

def speaksOf (directive : LogDirective) (line : LogLine) : Bool :=
  directive.start.isPrefixOf line.origin.name.toList

/-- The directive that decides about a line, where `best` is that of those before. -/
def deciding? (line : LogLine) (best : Option LogDirective) :
    List LogDirective → Option LogDirective
  | [] => best
  | directive :: rest =>
    if directive.speaksOf line && best.all (·.start.length ≤ directive.start.length) then
      deciding? line (some directive) rest
    else deciding? line best rest

end LogDirective

namespace LogFilter

def letsThrough (directives : List LogDirective) (line : LogLine) : Bool :=
  (LogDirective.deciding? line none directives).any fun directive => line.level.rank ≤ directive.rank

/-- A setting without directives lets errors through only. -/
def ofText? (text : String) : Option (LogLine → Bool) := do
  let directives ← ((text.toList.splitOn ',').filter (!·.isEmpty)).mapM LogDirective.ofChars?
  some (letsThrough (if directives.isEmpty then [⟨[], Level.error.rank⟩] else directives))

end LogFilter

instance : Logging := ⟨LogFilter.ofText?, LogLine.render⟩

end TrackSearch.Command
