import TrackSearch.Text.Hex

/-!
Quoted texts. Between double quotes a backslash starts an escape, between single quotes every character
stands for itself; three quotes enclose a text that may run over lines. The readers take the characters
behind the opening quotes and return the text and what follows the closing ones. Their first argument
bounds how many steps they take; the number of characters is enough.
-/

namespace TrackSearch.Toml

def isControl (c : Char) : Bool := (c.toNat < 0x20 && c != '\t') || c.toNat == 0x7F

def skipBlanks (cs : List Char) : List Char := cs.dropWhile fun c => c == ' ' || c == '\t'

def afterLineEnd? : List Char → Option (List Char)
  | '\n' :: cs => some cs
  | '\r' :: '\n' :: cs => some cs
  | _ => none

def skipLineEnd (cs : List Char) : List Char := (afterLineEnd? cs).getD cs

def charOfCode? (n : Nat) : Option Char := if n.isValidChar then some (Char.ofNat n) else none

def numberedEscape? (width : Nat) (cs : List Char) : Option (Char × List Char) :=
  if (cs.take width).length = width then
    ((Text.readHex 0 (cs.take width)).bind charOfCode?).map fun c => (c, cs.drop width)
  else none

def escape? : List Char → Option (Char × List Char)
  | '"' :: cs => some ('"', cs)
  | '\\' :: cs => some ('\\', cs)
  | 'b' :: cs => some (Char.ofNat 0x08, cs)
  | 'e' :: cs => some (Char.ofNat 0x1B, cs)
  | 'f' :: cs => some (Char.ofNat 0x0C, cs)
  | 'n' :: cs => some ('\n', cs)
  | 'r' :: cs => some ('\r', cs)
  | 't' :: cs => some ('\t', cs)
  | 'x' :: cs => numberedEscape? 2 cs
  | 'u' :: cs => numberedEscape? 4 cs
  | 'U' :: cs => numberedEscape? 8 cs
  | _ => none

def basicFrom? (read : List Char) : Nat → List Char → Option (List Char × List Char)
  | steps + 1, c :: cs =>
    if c = '"' then some (read.reverse, cs)
    else if c = '\\' then (escape? cs).bind fun (c, cs) => basicFrom? (c :: read) steps cs
    else if isControl c then none
    else basicFrom? (c :: read) steps cs
  | _, _ => none

def literal? (cs : List Char) : Option (List Char × List Char) :=
  let text := cs.takeWhile (· != '\'')
  match cs.dropWhile (· != '\'') with
  | _ :: rest => if text.any isControl then none else some (text, rest)
  | [] => none

def skipSpace : Nat → List Char → List Char
  | steps + 1, cs =>
    match afterLineEnd? (skipBlanks cs) with
    | some rest => skipSpace steps rest
    | none => skipBlanks cs
  | 0, cs => cs

/-- Ends a text behind three closing quotes; up to two more quotes belong to the text. -/
def closeLines (quote : Char) (read cs : List Char) : List Char × List Char :=
  let extra := min 2 (cs.takeWhile (· == quote)).length
  (read.reverse ++ List.replicate extra quote, cs.drop extra)

/-- Reads up to three closing quotes. A backslash at the end of a line joins it to the next text. -/
def basicLinesFrom? (read : List Char) : Nat → List Char → Option (List Char × List Char)
  | steps + 1, cs =>
    match cs with
    | '"' :: '"' :: '"' :: rest => some (closeLines '"' read rest)
    | '\\' :: rest =>
      if (afterLineEnd? (skipBlanks rest)).isSome then
        basicLinesFrom? read steps (skipSpace rest.length rest)
      else (escape? rest).bind fun (c, rest) => basicLinesFrom? (c :: read) steps rest
    | '\r' :: '\n' :: rest => basicLinesFrom? ('\n' :: '\r' :: read) steps rest
    | c :: rest =>
      if isControl c && c != '\n' then none else basicLinesFrom? (c :: read) steps rest
    | [] => none
  | 0, _ => none

def literalLinesFrom? (read : List Char) : Nat → List Char → Option (List Char × List Char)
  | steps + 1, cs =>
    match cs with
    | '\'' :: '\'' :: '\'' :: rest => some (closeLines '\'' read rest)
    | '\r' :: '\n' :: rest => literalLinesFrom? ('\n' :: '\r' :: read) steps rest
    | c :: rest =>
      if isControl c && c != '\n' then none else literalLinesFrom? (c :: read) steps rest
    | [] => none
  | 0, _ => none

def lineText? : List Char → Option (List Char × List Char)
  | '"' :: cs => basicFrom? [] cs.length cs
  | '\'' :: cs => literal? cs
  | _ => none

/-- Any text, from its opening quotes on. A line end right behind three quotes is no part of it. -/
def quotedText? : List Char → Option (List Char × List Char)
  | '"' :: '"' :: '"' :: cs => basicLinesFrom? [] cs.length (skipLineEnd cs)
  | '\'' :: '\'' :: '\'' :: cs => literalLinesFrom? [] cs.length (skipLineEnd cs)
  | cs => lineText? cs

end TrackSearch.Toml
