import TrackSearch.Toml.Table
import TrackSearch.Toml.Text
import TrackSearch.Toml.Word

/-!
Reading a TOML document: lines that open tables and lines that give values to keys. As in the readers
of texts, a bound on the steps is given first; the number of characters is enough.
-/

namespace TrackSearch.Toml

def afterComment? (cs : List Char) : Option (List Char) :=
  match cs with
  | '#' :: cs =>
    let comment := cs.takeWhile fun c => c != '\n' && c != '\r'
    if comment.any isControl then none else some (cs.dropWhile fun c => c != '\n' && c != '\r')
  | cs => some cs

def skipGap? : Nat → List Char → Option (List Char)
  | steps + 1, cs =>
    match afterComment? (skipBlanks cs) with
    | none => none
    | some rest =>
      match afterLineEnd? rest with
      | some rest => skipGap? steps rest
      | none => if (skipBlanks cs).head? = some '#' ∧ !rest.isEmpty then none else some rest
  | 0, _ => none

def gap? (cs : List Char) : Option (List Char) := skipGap? (cs.length + 1) cs

def nextLine? (cs : List Char) : Option (List Char) :=
  match afterComment? (skipBlanks cs) with
  | none => none
  | some [] => some []
  | some rest => afterLineEnd? rest

def isBareChar (c : Char) : Bool := c.isAlphanum || c == '_' || c == '-'

def keyPart? (cs : List Char) : Option (String × List Char) :=
  match cs with
  | '"' :: _ | '\'' :: _ => (lineText? cs).map fun (text, rest) => (String.ofList text, rest)
  | cs =>
    let name := cs.takeWhile isBareChar
    if name.isEmpty then none else some (String.ofList name, cs.dropWhile isBareChar)

def keyFrom? : Nat → List Char → Option (List String × List Char)
  | steps + 1, cs =>
    match keyPart? (skipBlanks cs) with
    | none => none
    | some (part, rest) =>
      match skipBlanks rest with
      | '.' :: rest => (keyFrom? steps rest).map fun (parts, rest) => (part :: parts, rest)
      | rest => some ([part], rest)
  | 0, _ => none

/-- How deep arrays and inline tables may nest, and how many parts a key may have. -/
def nestingLimit : Nat := 80

def key? (cs : List Char) : Option (List String × List Char) :=
  (keyFrom? (cs.length + 1) cs).filter fun found => found.1.length ≤ nestingLimit

def keyOfValue? (cs : List Char) : Option (List String × List Char) :=
  match key? cs with
  | some (key, '=' :: rest) => some (key, skipBlanks rest)
  | _ => none

def keyOfMember? (cs : List Char) : Option (List String × List Char) :=
  match key? cs with
  | some (key, rest) =>
    match gap? rest with
    | some ('=' :: rest) => (gap? rest).map fun rest => (key, rest)
    | _ => none
  | none => none

mutual

def valueFrom? (room : Nat) : Nat → List Char → Option (Value × List Char)
  | steps + 1, cs =>
    match cs with
    | '[' :: rest => if room = 0 then none else (gap? rest).bind (itemsFrom? (room - 1) [] steps)
    | '{' :: rest => if room = 0 then none else (gap? rest).bind (membersFrom? (room - 1) [] steps)
    | '"' :: _ | '\'' :: _ =>
      (quotedText? cs).map fun (text, rest) => (.text (String.ofList text), rest)
    | cs =>
      let (word, rest) := takeWords cs
      (wordValue? word).map fun value => (value, rest)
  | 0, _ => none

def itemsFrom? (room : Nat) (read : List Value) : Nat → List Char → Option (Value × List Char)
  | steps + 1, cs =>
    match cs with
    | ']' :: rest => some (.array read.reverse, rest)
    | cs =>
      match valueFrom? room steps cs with
      | none => none
      | some (item, rest) =>
        match gap? rest with
        | some (',' :: rest) => (gap? rest).bind (itemsFrom? room (item :: read) steps)
        | some (']' :: rest) => some (.array (item :: read).reverse, rest)
        | _ => none
  | 0, _ => none

def membersFrom? (room : Nat) (entries : Entries) : Nat → List Char → Option (Value × List Char)
  | steps + 1, cs =>
    match cs with
    | '}' :: rest => some (.table (entryValues entries), rest)
    | cs =>
      match keyOfMember? cs with
      | none => none
      | some (key, rest) =>
        match valueFrom? room steps rest with
        | none => none
        | some (value, rest) =>
          match entries.add? value key, gap? rest with
          | some entries, some (',' :: rest) => (gap? rest).bind (membersFrom? room entries steps)
          | some entries, some ('}' :: rest) => some (.table (entryValues entries), rest)
          | _, _ => none
  | 0, _ => none

end

def value? (cs : List Char) : Option (Value × List Char) :=
  valueFrom? nestingLimit (2 * cs.length + 2) cs

inductive Line where
  | table (key : List String)
  | element (key : List String)
  | entry (key : List String) (value : Value)

def line? (cs : List Char) : Option (Line × List Char) :=
  match cs with
  | '[' :: '[' :: rest =>
    match key? rest with
    | some (key, ']' :: ']' :: rest) => (nextLine? rest).map fun rest => (.element key, rest)
    | _ => none
  | '[' :: rest =>
    match key? rest with
    | some (key, ']' :: rest) => (nextLine? rest).map fun rest => (.table key, rest)
    | _ => none
  | cs =>
    match keyOfValue? cs with
    | none => none
    | some (key, rest) =>
      match value? rest with
      | none => none
      | some (value, rest) => (nextLine? rest).map fun rest => (.entry key value, rest)

structure Draft where
  entries : Entries
  path : List String

def Draft.add? (draft : Draft) : Line → Option Draft
  | .table key =>
    key.getLast?.bind fun last =>
      (draft.entries.within? (Entries.openTable? last) key.dropLast).map fun entries => ⟨entries, key⟩
  | .element key =>
    key.getLast?.bind fun last =>
      (draft.entries.within? (Entries.openElement? last) key.dropLast).map fun entries =>
        ⟨entries, key⟩
  | .entry key value =>
    (draft.entries.within? (Entries.add? value key) draft.path).map fun entries =>
      { draft with entries }

def draftFrom? (draft : Draft) : Nat → List Char → Option Draft
  | steps + 1, cs =>
    match gap? cs with
    | none => none
    | some [] => some draft
    | some cs =>
      match line? cs with
      | none => none
      | some (line, rest) => (draft.add? line).bind fun draft => draftFrom? draft steps rest
  | 0, _ => none

def byteOrderMark : Char := Char.ofNat 0xFEFF

def read? (text : String) : Option (List (String × Value)) :=
  let cs := match text.toList with
    | c :: cs => if c = byteOrderMark then cs else c :: cs
    | [] => []
  (draftFrom? ⟨[], []⟩ (cs.length + 1) cs).map fun draft => entryValues draft.entries

end TrackSearch.Toml
