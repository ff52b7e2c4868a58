import TrackSearch.Path

/-!
What reading a file can give, and files as a program sees them: an answer for every path. A tree of
files and directories that lie in the current directory gives such answers. What is reported of a file
that is of no use comes from the system or from a library.
-/

namespace TrackSearch

inductive FileContent where
  | missing
  /-- Nothing can be reached under the path: a part of it is no directory or may not be searched, or it is
  too long. -/
  | blocked
  /-- A directory, or a file that holds no text. -/
  | unreadable
  | text (content : String)
  deriving DecidableEq

namespace FileContent

def ofBytes (bytes : ByteArray) : FileContent :=
  match String.fromUTF8? bytes with
  | some content => text content
  | none => unreadable

def isPresent : FileContent → Bool
  | missing | blocked => false
  | unreadable | text _ => true

end FileContent

structure Files where
  content : Path → FileContent

/-- What the system or a library says of the file at a path. -/
class FileReports where
  unreadable : Path → String
  malformedConfig : Path → String
  malformedCatalog : Path → String

/-- Says nothing that only the system or a library knows. -/
instance : FileReports where
  unreadable _ := "cannot be read"
  malformedConfig _ := "no configuration"
  malformedCatalog _ := "no catalog"

inductive FileEntry where
  | file (bytes : ByteArray)
  | directory

structure FileTree where
  entries : List (List (List Char) × FileEntry)

namespace FileTree

def ofList (entries : List (Path × FileEntry)) : FileTree :=
  ⟨entries.map fun (path, entry) =>
    ((Path.parts path.text.toList).filter (!Path.isIdle ·), entry)⟩

/-- What lies at a place, where a place on the way to an entry is a directory. -/
def entry? (tree : FileTree) (place : List (List Char)) : Option FileEntry :=
  match tree.entries.lookup place with
  | some entry => some entry
  | none => if tree.entries.any (place.isPrefixOf ·.1) then some .directory else none

def longestName : Nat := 255

def longestPath : Nat := 4095

def byteLength (cs : List Char) : Nat := (String.ofList cs).utf8ByteSize

/-- Follows the parts of a path from a directory of the tree. Nothing is known above the tree. -/
def follow (tree : FileTree) (place : List (List Char)) : List (List Char) → FileContent
  | [] => .unreadable
  | part :: rest =>
    if Path.isIdle part then tree.follow place rest
    else if part = ['.', '.'] then
      if place.isEmpty then if rest.all Path.isIdle then .unreadable else .missing
      else tree.follow place.dropLast rest
    else if longestName < byteLength part then .blocked
    else
      match tree.entry? (place ++ [part]) with
      | none => .missing
      | some .directory => tree.follow (place ++ [part]) rest
      | some (.file bytes) => if rest.isEmpty then .ofBytes bytes else .blocked

def content (tree : FileTree) (path : Path) : FileContent :=
  let cs := path.text.toList
  if cs.isEmpty then .missing
  else if longestPath < byteLength cs || cs.contains (Char.ofNat 0) then .blocked
  else if path.isAbsolute then
    if (Path.parts cs).all Path.isIdle then .unreadable else .missing
  else tree.follow [] (Path.parts cs)

def files (tree : FileTree) : Files := ⟨tree.content⟩

end FileTree

end TrackSearch
