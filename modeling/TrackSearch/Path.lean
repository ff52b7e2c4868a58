/-!
File paths as they are written: parts with slashes between them. A path is absolute if it starts with a
slash. Joining and taking the parent keep what is written and resolve nothing.
-/

namespace TrackSearch

structure Path where
  text : String
  deriving DecidableEq

namespace Path

def isEmpty (p : Path) : Bool := p.text.isEmpty

def isAbsolute (p : Path) : Bool := p.text.toList.head? == some '/'

def join (directory path : Path) : Path :=
  if path.isAbsolute then path
  else if directory.isEmpty || directory.text.toList.getLast? == some '/' then
    ⟨directory.text ++ path.text⟩
  else ⟨directory.text ++ "/" ++ path.text⟩

def parts (cs : List Char) : List (List Char) := cs.splitOn '/'

/-- An empty part or a dot leads nowhere. -/
def isIdle (part : List Char) : Bool := part == [] || part == ['.']

def dropIdle (parts : List (List Char)) : List (List Char) :=
  (parts.reverse.dropWhile isIdle).reverse

def splitStart : List Char → List Char × List Char
  | '/' :: cs => (['/'], cs)
  | '.' :: '/' :: cs => (['.'], '/' :: cs)
  | cs => ([], cs)

def parent (p : Path) : Path :=
  let (start, body) := splitStart p.text.toList
  let above := dropIdle (dropIdle (parts body)).dropLast
  ⟨String.ofList (start ++ List.intercalate ['/'] above)⟩

end Path

end TrackSearch
