import TrackSearch.Text.Hex
import TrackSearch.Text.Numeral
import TrackSearch.Toml.Value

/-!
Values that are written without quotes: integers, floats, booleans, dates and times. The first digits
and what follows them tell the kind. Where an underscore joins digits, anything may end the word: it
then spells no number, which shows only when the number is asked for.
-/

namespace TrackSearch.Toml

def endsWord (c : Char) : Bool := ['=', ',', '[', ']', '{', '}', '#', '\r', '\n'].contains c

def isQuote (c : Char) : Bool := c == '"' || c == '\''

/-- The words at the front and the rest. Blanks between two words stay with them, but a quotation is no
word. -/
def takeWords : List Char → List Char × List Char
  | [] => ([], [])
  | c :: cs =>
    if endsWord c then ([], c :: cs)
    else
      let (words, rest) := takeWords cs
      if (c == ' ' || c == '\t') && (words.isEmpty || cs.head?.any isQuote) then ([], c :: cs)
      else (c :: words, rest)

def unsigned : List Char → List Char
  | '+' :: cs => cs
  | '-' :: cs => cs
  | cs => cs

def isNumeralChar (c : Char) : Bool := c.isDigit || c == '_'

def afterDigits? (cs : List Char) : Option (List Char) :=
  if (cs.takeWhile isNumeralChar).any Char.isDigit then some (cs.dropWhile isNumeralChar) else none

def afterWhole? (cs : List Char) : Option (List Char) :=
  if cs.head? = some '0' ∧ 1 < (cs.takeWhile isNumeralChar).countP Char.isDigit then none
  else afterDigits? cs

def joinsDigits (isDigit : Char → Bool) : List Char → Bool
  | [] => true
  | [c] => c != '_'
  | c :: d :: cs =>
    (c != '_' || isDigit d) && (d != '_' || isDigit c) && joinsDigits isDigit (d :: cs)

def underscoresFit (isDigit : Char → Bool) (cs : List Char) : Bool :=
  cs.head? != some '_' && joinsDigits isDigit cs

def isHexDigit (c : Char) : Bool := (Text.hexValue? c).isSome

def withoutUnderscores (cs : List Char) : List Char := cs.filter (· != '_')

def readRadix (radix : Nat) (value : Nat) : List Char → Option Nat
  | [] => some value
  | c :: cs =>
    match Text.hexValue? c with
    | some d => if d < radix then readRadix radix (radix * value + d) cs else none
    | none => none

/-- The value of digits of another base. No digits at all are no integer, but no fault either. -/
def radixValue? (radix : Nat) (cs : List Char) : Option Value :=
  if cs.isEmpty then some .other
  else if underscoresFit isHexDigit cs then
    (readRadix radix 0 (withoutUnderscores cs)).map fun n => .integer n
  else none

def decimalValue? (cs : List Char) : Option Value :=
  if (afterWhole? (unsigned cs)).isSome && underscoresFit isHexDigit cs then
    match Text.readInt? (withoutUnderscores cs) with
    | some n => some (.integer n)
    | none => some .other
  else none

def isPointOrMark (c : Char) : Bool := c == '.' || c == 'e' || c == 'E'

def afterFraction? : List Char → Option (List Char)
  | '.' :: cs => afterDigits? cs
  | cs => some cs

def afterExponent? : List Char → Option (List Char)
  | c :: cs => if c == 'e' || c == 'E' then afterDigits? (unsigned cs) else some (c :: cs)
  | [] => some []

def isFloat (cs : List Char) : Bool :=
  (((afterWhole? (unsigned cs)).bind afterFraction?).bind afterExponent?) == some [] &&
    underscoresFit Char.isDigit cs

def fixedNumber? (width : Nat) (cs : List Char) : Option Nat :=
  if cs.length = width then Text.readUnsigned? cs else none

def daysIn (year month : Nat) : Nat :=
  if month = 2 then
    if year % 4 = 0 ∧ (year % 100 ≠ 0 ∨ year % 400 = 0) then 29 else 28
  else if month ∈ [4, 6, 9, 11] then 30
  else 31

def isDate (cs : List Char) : Bool :=
  match cs.splitOn '-' with
  | [year, month, day] =>
    match fixedNumber? 4 year, fixedNumber? 2 month, fixedNumber? 2 day with
    | some y, some m, some d => 1 ≤ m && m ≤ 12 && 1 ≤ d && d ≤ daysIn y m
    | _, _, _ => false
  | _ => false

def isBelow (bound : Nat) (cs : List Char) : Bool := (fixedNumber? 2 cs).any (· < bound)

def isSeconds (cs : List Char) : Bool :=
  isBelow 61 (cs.takeWhile (· != '.')) &&
    match cs.dropWhile (· != '.') with
    | [] => true
    | _ :: fraction => !fraction.isEmpty && fraction.all Char.isDigit

def isTime (cs : List Char) : Bool :=
  match cs.splitOn ':' with
  | [hour, minute] => isBelow 24 hour && isBelow 60 minute
  | [hour, minute, second] => isBelow 24 hour && isBelow 60 minute && isSeconds second
  | _ => false

def isDistance (cs : List Char) : Bool :=
  match cs.splitOn ':' with
  | [hour, minute] => isBelow 24 hour && isBelow 60 minute
  | _ => false

def isOffset : List Char → Bool
  | ['Z'] | ['z'] => true
  | '+' :: cs => isDistance cs
  | '-' :: cs => isDistance cs
  | _ => false

def isTimeWithOffset (cs : List Char) : Bool :=
  let inTime := fun c : Char => c.isDigit || c == ':' || c == '.'
  isTime (cs.takeWhile inTime) &&
    match cs.dropWhile inTime with
    | [] => true
    | offset => isOffset offset

def isDateTime (cs : List Char) : Bool :=
  isTime cs || isDate cs ||
    isDate (cs.take 10) &&
      match cs.drop 10 with
      | 'T' :: time => isTimeWithOffset time
      | 't' :: time => isTimeWithOffset time
      | ' ' :: time => isTimeWithOffset time
      | _ => false

def numeralValue? (cs : List Char) : Option Value :=
  let rest := (unsigned cs).dropWhile Char.isDigit
  if rest.head? = some '-' ∨ rest.head? = some ':' then
    if isDateTime cs then some .other else none
  else if rest.contains ' ' then none
  else if rest.any isPointOrMark then if isFloat cs then some .other else none
  else if rest.isEmpty ∨ rest.head? = some '_' then decimalValue? cs
  else none

def wordValue? (cs : List Char) : Option Value :=
  match cs with
  | '0' :: 'x' :: digits => radixValue? 16 digits
  | '0' :: 'o' :: digits => radixValue? 8 digits
  | '0' :: 'b' :: digits => radixValue? 2 digits
  | cs =>
    if cs = "true".toList ∨ cs = "false".toList then some .other
    else if unsigned cs = "inf".toList ∨ unsigned cs = "nan".toList then some .other
    else numeralValue? cs

end TrackSearch.Toml
