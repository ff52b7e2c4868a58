import TrackSearch.Query.Parse

/-!
Compiling the text of a query into a predicate, with a limit on how deep its groups may nest.
-/

namespace TrackSearch.Query

def defaultMaxDepth : Nat := 64

def largestMaxDepth : Nat := 1024

def validDepth? (depth : Int) : Option Nat :=
  if 1 ≤ depth ∧ depth ≤ largestMaxDepth then some depth.toNat else none

def invalidDepthMessage (depth : Int) : String := "invalid group depth: " ++ Text.intText depth

structure Compiler where
  /-- Without a limit, groups nest as deep as they like. -/
  maxDepth : Option Nat := some defaultMaxDepth
  deriving DecidableEq

namespace Compiler

def unbounded : Compiler := ⟨none⟩

def tokenize (compiler : Compiler) (query : String) : Except SyntaxError (List Token) :=
  Query.tokenize compiler.maxDepth query.toList

def compile (compiler : Compiler) (query : String) : Except SyntaxError Predicate :=
  match compiler.tokenize query with
  | .error e => .error e
  | .ok tokens => (parse compiler.maxDepth tokens).result

end Compiler

end TrackSearch.Query
