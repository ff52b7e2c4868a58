import TrackSearch.Text.Quoted
import TrackSearch.Text.Numeral
import TrackSearch.Query.Event
import TrackSearch.Path

/-!
Lines of the log. A line has a level, a part of the program that it comes from, a message and named values.
Texts from a query are quoted, other values stand as they are, and the origin is not written out.
-/

namespace TrackSearch.Command

inductive Level where
  | error
  | warn
  | info
  | debug
  | trace
  deriving DecidableEq

namespace Level

def rank : Level → Nat
  | error => 1
  | warn => 2
  | info => 3
  | debug => 4
  | trace => 5

def name : Level → String
  | error => "ERROR"
  | warn => "WARN"
  | info => "INFO"
  | debug => "DEBUG"
  | trace => "TRACE"

def all : List Level := [error, warn, info, debug, trace]

def ofName? (text : String) : Option Level :=
  all.find? fun level => level.name.toList == text.toList.map Char.toUpper

end Level

inductive Origin where
  | main
  | commands
  | store
  | query
  | parser
  deriving DecidableEq

def Origin.name : Origin → String
  | main => "sift"
  | commands => "sift::commands"
  | store => "sift_store"
  | query => "sift_core::query"
  | parser => "sift_core::query::parser"

structure LogLine where
  level : Level
  origin : Origin
  message : String
  values : List (String × String)
  deriving DecidableEq

namespace LogLine

def width : Nat := 5

def alignRight (text : String) : String :=
  String.ofList (List.replicate (width - text.length) ' ') ++ text

def render (line : LogLine) : String :=
  line.values.foldl (fun text value => text ++ " " ++ value.1 ++ "=" ++ value.2)
    (alignRight line.level.name ++ " " ++ line.message)

def quoted (text : String) : String := String.ofList (Text.Quoted.encode text.toList)

def fieldName : Query.Field → String
  | .title => "title"
  | .artist => "artist"
  | .album => "album"
  | .year => "year"
  | .explicit => "explicit"
  | .tagIncluded => "tag"
  | .tagExcluded => "tag"
  | .freeText => "text"

def ofEvent : Query.Event → LogLine
  | .expanding contents => ⟨.trace, .parser, "expanding group", [("group", quoted contents)]⟩
  | .dropping criterion =>
    ⟨.debug, .parser, "dropping " ++ fieldName criterion.field ++ " clause",
      [("value", quoted criterion.operand)]⟩

def compiling (tokens : Nat) : LogLine :=
  ⟨.debug, .query, "compiling query", [("tokens", Text.natText tokens)]⟩

def configFound (path : Path) (isPresent : Bool) : LogLine :=
  ⟨.debug, .main, if isPresent then "config resolved" else "config missing, using defaults",
    [("path", path.text)]⟩

def configUnavailable (cause : String) : LogLine :=
  ⟨.debug, .main, "config unavailable", [("error", cause)]⟩

def catalogResolved (path : Path) : LogLine :=
  ⟨.debug, .commands, "catalog path resolved", [("path", path.text)]⟩

def catalogLoaded (path : Path) (tracks : Nat) : LogLine :=
  ⟨.debug, .store, "catalog loaded", [("path", path.text), ("tracks", Text.natText tracks)]⟩

end LogLine

end TrackSearch.Command
