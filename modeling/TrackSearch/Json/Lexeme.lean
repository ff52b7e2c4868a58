import TrackSearch.Text.Hex
import TrackSearch.Text.Numeral
import TrackSearch.Json.Value

/-!
Splitting JSON text into lexemes. Letters, digits, signs and dots that stand together make one word,
which has to be a literal or a number as a whole.
-/

namespace TrackSearch.Json

inductive Lexeme where
  | openArray
  | closeArray
  | openObject
  | closeObject
  | comma
  | colon
  | scalar (value : Json)
  /-- A text, unless it holds an unpaired surrogate. -/
  | text (value : Option String)

def isSpace (c : Char) : Bool := c == ' ' || c == '\t' || c == '\n' || c == '\r'

def isWordChar (c : Char) : Bool := c.isAlphanum || c == '+' || c == '-' || c == '.'

def isPlainNatural : List Char → Bool
  | [] => false
  | ['0'] => true
  | c :: cs => c != '0' && (c :: cs).all Char.isDigit

def isDigits (cs : List Char) : Bool := !cs.isEmpty && cs.all Char.isDigit

def isExponent : List Char → Bool
  | [] => true
  | c :: cs =>
    (c == 'e' || c == 'E') &&
      match cs with
      | '+' :: digits => isDigits digits
      | '-' :: digits => isDigits digits
      | digits => isDigits digits

def isFraction : List Char → Bool
  | '.' :: cs => isDigits (cs.takeWhile Char.isDigit) && isExponent (cs.dropWhile Char.isDigit)
  | cs => isExponent cs

def readNatural? (cs : List Char) : Option Nat :=
  if isPlainNatural cs then Text.readDigits 0 cs else none

def isMagnitude (cs : List Char) : Bool :=
  isPlainNatural (cs.takeWhile Char.isDigit) && isFraction (cs.dropWhile Char.isDigit)

/-- Minus zero is a number, but no integer. -/
def readNumber? (cs : List Char) : Option Json :=
  match cs with
  | '-' :: digits =>
    match readNatural? digits with
    | some 0 => some .unusable
    | some n => some (.integer (-(n : Int)))
    | none => if isMagnitude digits then some .unusable else none
  | digits =>
    match readNatural? digits with
    | some n => some (.integer n)
    | none => if isMagnitude digits then some .unusable else none

def readWord? (cs : List Char) : Option Json :=
  if cs = "null".toList then some .null
  else if cs = "true".toList then some (.bool true)
  else if cs = "false".toList then some (.bool false)
  else readNumber? cs

def isHighSurrogate (n : Nat) : Bool := 0xD800 ≤ n && n < 0xDC00

def isLowSurrogate (n : Nat) : Bool := 0xDC00 ≤ n && n < 0xE000

def pairSurrogates (high low : Nat) : Char :=
  Char.ofNat (0x10000 + (high - 0xD800) * 0x400 + (low - 0xDC00))

def charsOfCodes? : List Nat → Option (List Char)
  | [] => some []
  | [code] => if isHighSurrogate code || isLowSurrogate code then none else some [Char.ofNat code]
  | code :: next :: rest =>
    if isLowSurrogate code then none
    else if isHighSurrogate code then
      if isLowSurrogate next then (charsOfCodes? rest).map (pairSurrogates code next :: ·) else none
    else (charsOfCodes? (next :: rest)).map (Char.ofNat code :: ·)

def escapedCode? (c : Char) : Option Nat :=
  match c with
  | '"' => some 0x22
  | '\\' => some 0x5C
  | '/' => some 0x2F
  | 'b' => some 0x08
  | 'f' => some 0x0C
  | 'n' => some 0x0A
  | 'r' => some 0x0D
  | 't' => some 0x09
  | _ => none

/-- Where in a lexeme the reader stands. What has been read of a word or a text is kept backwards. -/
inductive Reading where
  | between
  | word (read : List Char)
  | text (codes : List Nat)
  | escape (codes : List Nat)
  /-- In a numbered escape, with so many digits to come. -/
  | number (codes : List Nat) (missing : Nat) (value : Nat)

def startLexeme? (c : Char) : Option (List Lexeme × Reading) :=
  match c with
  | '[' => some ([.openArray], .between)
  | ']' => some ([.closeArray], .between)
  | '{' => some ([.openObject], .between)
  | '}' => some ([.closeObject], .between)
  | ',' => some ([.comma], .between)
  | ':' => some ([.colon], .between)
  | '"' => some ([], .text [])
  | c =>
    if isSpace c then some ([], .between) else if isWordChar c then some ([], .word [c]) else none

def endWord? (read : List Char) : Option Lexeme := (readWord? read.reverse).map .scalar

def endText (codes : List Nat) : Lexeme :=
  .text ((charsOfCodes? codes.reverse).map String.ofList)

def Reading.step? (c : Char) : Reading → Option (List Lexeme × Reading)
  | .between => startLexeme? c
  | .word read =>
    if isWordChar c then some ([], .word (c :: read))
    else
      match endWord? read, startLexeme? c with
      | some lexeme, some (lexemes, next) => some (lexeme :: lexemes, next)
      | _, _ => none
  | .text codes =>
    if c = '"' then some ([endText codes], .between)
    else if c = '\\' then some ([], .escape codes)
    else if c.toNat < 0x20 then none
    else some ([], .text (c.toNat :: codes))
  | .escape codes =>
    if c = 'u' then some ([], .number codes 4 0)
    else (escapedCode? c).map fun code => ([], .text (code :: codes))
  | .number codes missing value =>
    (Text.hexValue? c).map fun digit =>
      ([], if missing = 1 then .text ((16 * value + digit) :: codes)
        else .number codes (missing - 1) (16 * value + digit))

def Reading.finish? : Reading → Option (List Lexeme)
  | .between => some []
  | .word read => (endWord? read).map ([·])
  | _ => none

def lexemesFrom? (reading : Reading) : List Char → Option (List Lexeme)
  | [] => reading.finish?
  | c :: cs =>
    match reading.step? c with
    | none => none
    | some (lexemes, next) => (lexemesFrom? next cs).map (lexemes ++ ·)

def lexemes? (cs : List Char) : Option (List Lexeme) := lexemesFrom? .between cs

end TrackSearch.Json
