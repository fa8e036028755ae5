import PatternAlgebra.Engine.Expr

/-!
# Regular expressions proper

The part of the dialect that needs no backtracking, in a small form of its own: bounds are split
into what is required and what is optional, parts that can only be empty are not repeated, and
alternatives that begin alike share their beginning. `Regular.ofExpr?` brings an easy expression
into this form; there is no answer when its bounds are out of order or too large.
-/
namespace PatternAlgebra.Engine

inductive Regular where
  | empty
  | set (s : CharSet)
  | look (a : Assertion)
  | group (index : Nat) (body : Regular)
  | seq (first rest : Regular)
  | alt (first rest : Regular)
  /-- A run of members of one set. -/
  | run (s : CharSet) (least : Nat) (most : Option Nat) (greedy : Bool)
  /-- `least` times and then at most `extra` times more. -/
  | between (body : Regular) (least extra : Nat) (greedy : Bool)
  /-- `skipped` times, and then once or more often. -/
  | onward (body : Regular) (skipped : Nat) (greedy : Bool)
  /-- Any number of times, for a body that is never empty. -/
  | zeroOrMore (body : Regular) (greedy : Bool)
  deriving DecidableEq, Repr

namespace Regular

/-- One after the other, without parts that are empty. -/
def append : Regular → Regular → Regular
  | empty, e => e
  | seq a b, e => seq a (append b e)
  | e, empty => e
  | e, f => seq e f

def factors : Regular → List Regular
  | empty => []
  | seq a b => a :: b.factors
  | e => [e]

def ofFactors (es : List Regular) : Regular := es.foldr append empty

/-- The alternatives, those of nested choices included. -/
def branches : Regular → List Regular
  | alt a b => a.branches ++ b.branches
  | e => [e]

/-- The longest beginning that two lists share. -/
def sharedStart : List Regular → List Regular → List Regular
  | a :: as, b :: bs => if a = b then a :: sharedStart as bs else []
  | _, _ => []

/-- What all of the alternatives begin with, provided that each has more than one part. -/
def commonStart : List (List Regular) → List Regular
  | [] => []
  | first :: others =>
    if (first :: others).all (2 ≤ ·.length) then others.foldl sharedStart first else []

def choice : List Regular → Regular
  | [] => empty
  | [e] => e
  | e :: es => alt e (choice es)

/-- A choice between alternatives. What they all begin with is written once. -/
def ofBranches (es : List Regular) : Regular :=
  match es.flatMap branches with
  | [e] => e
  | es =>
    let parts := es.map factors
    let start := commonStart parts
    if start.isEmpty then choice es
    else append (ofFactors start) (choice (parts.map fun p => ofFactors (p.drop start.length)))

def isIdle : Regular → Bool
  | empty | look _ => true
  | set _ | run _ _ _ _ => false
  | group _ e | between e _ _ _ | onward e _ _ | zeroOrMore e _ => e.isIdle
  | seq a b | alt a b => a.isIdle && b.isIdle

/-- Whether some match is empty. -/
def isNullable : Regular → Bool
  | empty | look _ | zeroOrMore _ _ => true
  | set _ => false
  | run _ least _ _ => least == 0
  | group _ e | onward e _ _ => e.isNullable
  | between e least _ _ => least == 0 || e.isNullable
  | seq a b => a.isNullable && b.isNullable
  | alt a b => a.isNullable || b.isNullable

/-- A repetition. What can only be empty is not repeated. -/
def repeated (e : Regular) (least : Nat) (most : Option Nat) (greedy : Bool) : Regular :=
  let least := if e.isIdle then min least 1 else least
  let most := if e.isIdle then some (min (most.getD 1) 1) else most
  if most = some 0 then empty
  else if least = 1 ∧ most = some 1 then e
  else
    match e, most with
    | set s, most => run s least most greedy
    | e, some most => between e least (most - least) greedy
    | e, none =>
      if least ≠ 0 then onward e (least - 1) greedy
      else if e.isNullable then between (onward e 0 greedy) 0 1 greedy
      else zeroOrMore e greedy

/-- The numbers of the groups. -/
def groups : Regular → List Nat
  | empty | set _ | look _ | run _ _ _ _ => []
  | group n e => n :: e.groups
  | seq a b | alt a b => a.groups ++ b.groups
  | between e _ _ _ | onward e _ _ | zeroOrMore e _ => e.groups

/-- Bounds are in order and below this. -/
def boundLimit : Nat := 0x100000000

def isWellBounded (least : Nat) (most : Option Nat) : Bool :=
  least < boundLimit && most.all fun m => least ≤ m && m < boundLimit

/-- The alternatives of an easy expression, a single one where it is no choice. A repetition binds
to the last item of an overrun only, unless the overrun has a scope of its own. -/
def branchesOf? : Expr → Option (List Regular)
  | .empty => some [empty]
  | .set s _ => some [set s]
  | .overrun _ a b => do
    let a ← branchesOf? a
    let b ← branchesOf? b
    some [append (ofBranches a) (ofBranches b)]
  | .assertion a => some [look a]
  | .seq a b => do
    let a ← branchesOf? a
    let b ← branchesOf? b
    some [append (ofBranches a) (ofBranches b)]
  | .alt a b => do
    let a ← branchesOf? a
    let b ← branchesOf? b
    some (a ++ b)
  | .scope e => (branchesOf? e).map fun es => [ofBranches es]
  | .repeated (.overrun false a b) least most greedy => do
    let a ← branchesOf? a
    let b ← branchesOf? b
    if isWellBounded least most then
      some [append (ofBranches a) (repeated (ofBranches b) least most greedy)]
    else none
  | .repeated e least most greedy => do
    let e ← branchesOf? e
    if isWellBounded least most then some [repeated (ofBranches e) least most greedy] else none
  | .group n e => (branchesOf? e).map fun es => [group n (ofBranches es)]
  | _ => none

def ofExpr? (e : Expr) : Option Regular := (branchesOf? e).map ofBranches

end Regular

end PatternAlgebra.Engine
