import PatternAlgebra.Engine.Assembly

/-!
# Programs

A grammar that the engine has accepted: how it is searched for, how many groups it has, and which
of them have names. An easy grammar is one regular expression. In it a group that can never be
entered, being repeated zero times, does not count, though those behind it keep their numbers.
-/
namespace PatternAlgebra.Engine

inductive Program.Body where
  | regular (e : Regular)
  | planned (plan : Plan)
  deriving DecidableEq, Repr

structure Program where
  body : Program.Body
  /-- How many capturing groups there are. -/
  groups : Nat
  /-- The highest number of a group. -/
  lastGroup : Nat
  /-- The numbers of the named groups, the last first. -/
  names : List (Text × Nat)
  deriving DecidableEq, Repr

namespace Program

/-- Whether a search can be broken off at all. -/
def canBreak (p : Program) : Bool :=
  match p.body with
  | .regular _ => false
  | .planned plan => plan.refersInside []

/-- Whether a match can begin before the end of the one before it. -/
def canStepBack (p : Program) : Bool :=
  match p.body with
  | .regular _ => false
  | .planned plan => plan.movesStart

/-- How an expression with this many groups is searched for. -/
def ofExpr? (names : List (Text × Nat)) (groups : Nat) (e : Expr) : Option Program :=
  if e.isEasy then do
    let r ← Regular.ofWhole? e
    let used := r.groups
    some { body := .regular r, groups := used.length, lastGroup := used.foldl max 0, names }
  else do
    let plan ← Plan.ofExpr? e (.whole true)
    some { body := .planned plan, groups, lastGroup := groups, names }

/-- Reads a grammar; there is no answer for one that the engine rejects. A reference by number
must be below half of the grammar's size in bytes. -/
def ofGrammar? (grammar : Text) : Option Program := do
  let a ← Assembly.read? (grammar.byteLength / 2) (grammar.length + 1) {} grammar
  let e ← a.finish?
  ofExpr? a.names a.groups e

end Program

end PatternAlgebra.Engine
