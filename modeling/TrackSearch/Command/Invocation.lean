import TrackSearch.Path
import TrackSearch.Text.Numeral

/-!
What the command line asks for. Options may stand before or after the name of the command, and those
after it win. Reading goes from left to right and stops at the first word that is wrong, or that asks
for help or for the version.
-/

namespace TrackSearch.Command

inductive Verb where
  | tokenize
  | explain
  | search
  | show
  | tags
  deriving DecidableEq

def Verb.ofName? : String → Option Verb
  | "tokenize" => some .tokenize
  | "explain" => some .explain
  | "search" => some .search
  | "show" => some .show
  | "tags" => some .tags
  | _ => none

def Verb.capacity : Verb → Nat
  | .tags => 0
  | _ => 1

inductive Task where
  | tokenize (query : String)
  | explain (query : String)
  | search (query : String) (limit : Option Nat)
  | show (id : String)
  | tags
  deriving DecidableEq

structure Invocation where
  catalog : Option Path
  config : Option Path
  json : Bool
  verbose : Bool
  task : Task
  deriving DecidableEq

inductive Stop where
  | usage
  | help
  | version
  deriving DecidableEq

inductive Switch where
  | json
  | verbose
  | help
  | version
  | catalog
  | config
  | limit
  deriving DecidableEq

def Switch.takesValue : Switch → Bool
  | .catalog | .config | .limit => true
  | _ => false

/-- Whether a switch may stand before the command, or after the command `verb`. -/
def Switch.isAllowed (verb : Option Verb) : Switch → Bool
  | .version => verb == none
  | .limit => verb == some .search
  | _ => true

def Switch.ofName? : String → Option Switch
  | "json" => some .json
  | "verbose" => some .verbose
  | "help" => some .help
  | "version" => some .version
  | "catalog" => some .catalog
  | "config" => some .config
  | "limit" => some .limit
  | _ => none

def Switch.ofLetter? : Char → Option Switch
  | 'v' => some .verbose
  | 'h' => some .help
  | 'V' => some .version
  | _ => none

structure Given where
  catalog : Option Path := none
  config : Option Path := none
  limit : Option Nat := none
  json : Bool := false
  verbose : Bool := false
  operands : List String := []

namespace Given

def raise (given : Given) : Switch → Except Stop Given
  | .json => if given.json then .error .usage else .ok { given with json := true }
  | .verbose => if given.verbose then .error .usage else .ok { given with verbose := true }
  | .help => .error .help
  | .version => .error .version
  | _ => .error .usage

def readPath (old : Option Path) (value : String) : Except Stop (Option Path) :=
  if old.isSome || value.isEmpty then .error .usage else .ok (some ⟨value⟩)

def readLimit (old : Option Nat) (value : String) : Except Stop (Option Nat) :=
  match (Text.readNat? value.toList).filter (· < UInt64.size) with
  | some n => if old.isSome then .error .usage else .ok (some n)
  | none => .error .usage

def set (given : Given) (switch : Switch) (value : String) : Except Stop Given :=
  match switch with
  | .catalog => (readPath given.catalog value).map fun path => { given with catalog := path }
  | .config => (readPath given.config value).map fun path => { given with config := path }
  | .limit => (readLimit given.limit value).map fun n => { given with limit := n }
  | _ => .error .usage

def addOperand (given : Given) (verb : Verb) (operand : String) : Except Stop Given :=
  if given.operands.length < verb.capacity then
    .ok { given with operands := given.operands ++ [operand] }
  else .error .usage

def addOperands (given : Given) (verb : Verb) : List String → Except Stop Given
  | [] => .ok given
  | operand :: operands => (given.addOperand verb operand).bind (·.addOperands verb operands)

def raiseLetters (given : Given) (verb : Option Verb) : List Char → Except Stop Given
  | [] => .ok given
  | c :: cs =>
    match (Switch.ofLetter? c).filter (·.isAllowed verb) with
    | some switch => (given.raise switch).bind (·.raiseLetters verb cs)
    | none => .error .usage

end Given

inductive Word where
  | plain
  | endOfOptions
  | long (name : String) (value : Option String)
  | letters (letters : List Char)

def Word.ofChars : List Char → Word
  | ['-', '-'] => .endOfOptions
  | '-' :: '-' :: cs =>
    .long (String.ofList (cs.takeWhile (· != '=')))
      (match cs.dropWhile (· != '=') with
        | _ :: value => some (String.ofList value)
        | [] => none)
  | '-' :: c :: cs => .letters (c :: cs)
  | _ => .plain

/-- Reads the words after the command `verb`, where the switch `awaiting` still lacks its value. -/
def readAfter (verb : Verb) (given : Given) (awaiting : Option Switch) :
    List String → Except Stop Given
  | [] => if awaiting.isSome then .error .usage else .ok given
  | word :: words =>
    match awaiting, Word.ofChars word.toList with
    | some switch, .plain => (given.set switch word).bind (readAfter verb · none words)
    | some _, _ => .error .usage
    | none, .plain => (given.addOperand verb word).bind (readAfter verb · none words)
    | none, .endOfOptions => given.addOperands verb words
    | none, .letters letters =>
      (given.raiseLetters (some verb) letters).bind (readAfter verb · none words)
    | none, .long name value =>
      match (Switch.ofName? name).filter (·.isAllowed (some verb)), value with
      | none, _ => .error .usage
      | some switch, some value => (given.set switch value).bind (readAfter verb · none words)
      | some switch, none =>
        if switch.takesValue then readAfter verb given (some switch) words
        else (given.raise switch).bind (readAfter verb · none words)

def stopForHelp : List String → Stop
  | [] => .help
  | [name] => if name = "help" ∨ (Verb.ofName? name).isSome then .help else .usage
  | _ => .usage

def readBefore (given : Given) (awaiting : Option Switch) :
    List String → Except Stop (Given × Verb × List String)
  | [] => .error .usage
  | word :: words =>
    match awaiting, Word.ofChars word.toList with
    | some switch, .plain => (given.set switch word).bind (readBefore · none words)
    | some _, _ => .error .usage
    | none, .plain =>
      match Verb.ofName? word with
      | some verb => .ok (given, verb, words)
      | none => .error (if word = "help" then stopForHelp words else .usage)
    | none, .endOfOptions => .error .usage
    | none, .letters letters =>
      (given.raiseLetters none letters).bind (readBefore · none words)
    | none, .long name value =>
      match (Switch.ofName? name).filter (·.isAllowed none), value with
      | none, _ => .error .usage
      | some switch, some value => (given.set switch value).bind (readBefore · none words)
      | some switch, none =>
        if switch.takesValue then readBefore given (some switch) words
        else (given.raise switch).bind (readBefore · none words)

def taskOf (verb : Verb) (given : Given) : Except Stop Task :=
  match verb, given.operands with
  | .tokenize, [query] => .ok (.tokenize query)
  | .explain, [query] => .ok (.explain query)
  | .search, [query] => .ok (.search query given.limit)
  | .search, [] => .ok (.search "" given.limit)
  | .show, [id] => .ok (.show id)
  | .tags, [] => .ok .tags
  | _, _ => .error .usage

def Invocation.ofWords (words : List String) : Except Stop Invocation :=
  match readBefore {} none words with
  | .error stop => .error stop
  | .ok (before, verb, words) =>
    match readAfter verb {} none words with
    | .error stop => .error stop
    | .ok after =>
      (taskOf verb after).map fun task =>
        { catalog := after.catalog <|> before.catalog
          config := after.config <|> before.config
          json := after.json || before.json
          verbose := after.verbose || before.verbose
          task }

end TrackSearch.Command
