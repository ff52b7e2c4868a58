import TrackSearch.Text.Enclosed
import TrackSearch.Text.Quoted.Hidden

/-!
Text between double quotes, as log lines show it: quotes and backslashes are escaped, and characters
that do not show as themselves are written by number.
-/

namespace TrackSearch.Text.Quoted

def byNumber (c : Char) : List Char :=
  ['\\', 'u'] ++ enclose '{' '}' (Nat.toDigits 16 c.toNat)

def encodeChar (c : Char) : List Char :=
  if c = '"' then ['\\', '"']
  else if c = '\\' then ['\\', '\\']
  else if c = '\n' then ['\\', 'n']
  else if c = '\r' then ['\\', 'r']
  else if c = '\t' then ['\\', 't']
  else if c = Char.ofNat 0 then ['\\', '0']
  else if isHidden c then byNumber c
  else [c]

def encode (cs : List Char) : List Char := enclose '"' '"' (cs.flatMap encodeChar)

end TrackSearch.Text.Quoted
