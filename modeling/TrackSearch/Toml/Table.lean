import TrackSearch.Toml.Value

/-!
Tables while a document is read. A table may be opened by a header once, also after headers of tables
inside it; a table made by a dotted key grows by dotted keys only, and values are never reopened.
-/

namespace TrackSearch.Toml

inductive TableOrigin where
  /-- Opened by its own header. -/
  | header
  /-- Named on the way to the header of another table. -/
  | passage
  | dottedKey
  deriving DecidableEq

inductive Node where
  | value (value : Value)
  | table (origin : TableOrigin) (entries : List (String × Node))
  /-- Tables of an array, the latest first. -/
  | tables (elements : List (List (String × Node)))

abbrev Entries := List (String × Node)

namespace Entries

def find? (entries : Entries) (key : String) : Option Node := entries.lookup key

def put (key : String) (node : Node) : Entries → Entries
  | [] => [(key, node)]
  | (name, old) :: rest => if name = key then (key, node) :: rest else (name, old) :: put key node rest

/-- Changes the table that a path of headers leads to, in the latest element of an array. -/
def within? (change : Entries → Option Entries) : List String → Entries → Option Entries
  | [], entries => change entries
  | key :: path, entries =>
    match entries.find? key with
    | none => (within? change path []).map fun inner => entries.put key (.table .passage inner)
    | some (.table origin inner) =>
      (within? change path inner).map fun inner => entries.put key (.table origin inner)
    | some (.tables (latest :: earlier)) =>
      (within? change path latest).map fun inner => entries.put key (.tables (inner :: earlier))
    | some _ => none

def openTable? (key : String) (entries : Entries) : Option Entries :=
  match entries.find? key with
  | none => some (entries.put key (.table .header []))
  | some (.table .passage inner) => some (entries.put key (.table .header inner))
  | some _ => none

def openElement? (key : String) (entries : Entries) : Option Entries :=
  match entries.find? key with
  | none => some (entries.put key (.tables [[]]))
  | some (.tables elements) => some (entries.put key (.tables ([] :: elements)))
  | some _ => none

def add? (value : Value) : List String → Entries → Option Entries
  | [], _ => none
  | [key], entries =>
    if (entries.find? key).isSome then none else some (entries.put key (.value value))
  | key :: path, entries =>
    match entries.find? key with
    | none => (add? value path []).map fun inner => entries.put key (.table .dottedKey inner)
    | some (.table .dottedKey inner) =>
      (add? value path inner).map fun inner => entries.put key (.table .dottedKey inner)
    | some _ => none

end Entries

mutual

def Node.toValue : Node → Value
  | .value value => value
  | .table _ entries => .table (entryValues entries)
  | .tables elements => .array (elementValues elements).reverse

def entryValues : List (String × Node) → List (String × Value)
  | [] => []
  | (key, node) :: rest => (key, node.toValue) :: entryValues rest

def elementValues : List (List (String × Node)) → List Value
  | [] => []
  | entries :: rest => .table (entryValues entries) :: elementValues rest

end

end TrackSearch.Toml
