/-!
Decimal numerals: an optional sign and at least one digit, leading zeros allowed.
-/

namespace TrackSearch.Text

def digitValue? (c : Char) : Option Nat :=
  if '0' ≤ c ∧ c ≤ '9' then some (c.toNat - '0'.toNat) else none

def readDigits (value : Nat) : List Char → Option Nat
  | [] => some value
  | c :: cs =>
    match digitValue? c with
    | some d => readDigits (10 * value + d) cs
    | none => none

def readUnsigned? (cs : List Char) : Option Nat :=
  if cs.isEmpty then none else readDigits 0 cs

def readNat? : List Char → Option Nat
  | '+' :: cs => readUnsigned? cs
  | cs => readUnsigned? cs

def readInt? : List Char → Option Int
  | '-' :: cs => (readUnsigned? cs).map fun n => -(n : Int)
  | cs => (readNat? cs).map fun n => (n : Int)

def int32OfInt? (n : Int) : Option Int32 :=
  if Int32.minValue.toInt ≤ n ∧ n ≤ Int32.maxValue.toInt then some (Int32.ofInt n) else none

def readInt32? (cs : List Char) : Option Int32 := (readInt? cs).bind int32OfInt?

def showNat (n : Nat) : List Char := Nat.toDigits 10 n

def showInt : Int → List Char
  | .ofNat n => showNat n
  | .negSucc n => '-' :: showNat (n + 1)

def showInt32 (n : Int32) : List Char := showInt n.toInt

def natText (n : Nat) : String := String.ofList (showNat n)

def intText (n : Int) : String := String.ofList (showInt n)

end TrackSearch.Text
