import PatternAlgebra.Engine.Escape

/-!
# Expressions

What a grammar means to the engine. Sequences and alternatives are chains: the last part stands in
the `rest` of the chain, and a chain that is itself a part of one stands in a `scope`. Groups are
numbered from one. `isEasy`, `minSize` and `isFixed` decide how an expression is searched for.
-/
namespace PatternAlgebra.Engine

inductive Expr where
  | empty
  /-- One character. `nesting` says how deep the notation of the set nests. -/
  | set (s : CharSet) (nesting : Nat)
  /-- A bracket expression that ends before its last bracket: what it spells up to its last item,
  and that item. It counts as one character. -/
  | overrun (caseless : Bool) (lead last : Expr)
  | assertion (a : Assertion)
  | keep
  | seq (first rest : Expr)
  | alt (first rest : Expr)
  | scope (body : Expr)
  | repeated (body : Expr) (least : Nat) (most : Option Nat) (greedy : Bool)
  | group (index : Nat) (body : Expr)
  | atomic (body : Expr)
  | ahead (negated : Bool) (body : Expr)
  | behind (negated : Bool) (body : Expr)
  | backref (index : Nat)
  /-- Holds where the group has been entered; group 0 is the match itself. -/
  | participated (index : Nat)
  | conditional (condition yes no : Expr)
  deriving DecidableEq, Repr

namespace Expr

def asFactor : Expr → Expr
  | seq a b => scope (seq a b)
  | e => e

def asBranch : Expr → Expr
  | alt a b => scope (alt a b)
  | e => e

def ofSequence : List Expr → Expr
  | [] => empty
  | [e] => e
  | e :: es => seq e.asFactor (chain es)
where
  chain : List Expr → Expr
    | [] => empty
    | [e] => e.asFactor
    | e :: es => seq e.asFactor (chain es)

def ofAlternatives : List Expr → Expr
  | [] => empty
  | [e] => e
  | e :: es => alt e.asBranch (chain es)
where
  chain : List Expr → Expr
    | [] => empty
    | [e] => e.asBranch
    | e :: es => alt e.asBranch (chain es)

def factors : Expr → List Expr
  | seq a b => a :: b.factors
  | e => [e]

/-- Whether the expression needs no backtracking: it says nothing on words, on the search and on
what other parts have matched, and never forbids to give back. -/
def isEasy : Expr → Bool
  | empty | set _ _ | overrun _ _ _ => true
  | assertion a => a.isEasy
  | seq a b | alt a b => a.isEasy && b.isEasy
  | scope e | repeated e _ _ _ | group _ e => e.isEasy
  | keep | atomic _ | ahead _ _ | behind _ _ | backref _ | participated _ | conditional _ _ _ =>
    false

/-- The number of characters that every match has at least. -/
def minSize : Expr → Nat
  | set _ _ | overrun _ _ _ => 1
  | seq a b => a.minSize + b.minSize
  | alt a b => min a.minSize b.minSize
  | scope e | group _ e | atomic e => e.minSize
  | repeated e least _ _ => e.minSize * least
  | conditional c y n => c.minSize + min y.minSize n.minSize
  | empty | assertion _ | keep | ahead _ _ | behind _ _ | backref _ | participated _ => 0

/-- Whether no match has more characters than the least number. -/
def isFixed : Expr → Bool
  | seq a b => a.isFixed && b.isFixed
  | alt a b => a.isFixed && b.isFixed && a.minSize == b.minSize
  | scope e | group _ e | atomic e => e.isFixed
  | repeated e least most _ => e.isFixed && most == some least
  | conditional c y n =>
    c.isFixed && y.isFixed && n.isFixed && c.minSize + y.minSize == n.minSize
  | backref _ => false
  | empty | set _ _ | overrun _ _ _ | assertion _ | keep | ahead _ _ | behind _ _
  | participated _ => true

def groups : Expr → List Nat
  | seq a b | alt a b => a.groups ++ b.groups
  | scope e | repeated e _ _ _ | atomic e | ahead _ e | behind _ e => e.groups
  | group n e => n :: e.groups
  | conditional c y n => c.groups ++ y.groups ++ n.groups
  | empty | set _ _ | overrun _ _ _ | assertion _ | keep | backref _ | participated _ => []

/-- Where an expression stands, which decides whether its notation needs parentheses. -/
inductive Place where
  | top | branch | factor | operand
  | laterBranch | laterFactor
  deriving DecidableEq, Repr

/-- How deep the notation of an easy expression nests. -/
def nesting : Expr → Place → Nat
  | set _ depth, _ => depth
  | overrun caseless a b, _ =>
    (if caseless then 1 else 0) + 1 + max (a.nesting .factor) (b.nesting .factor)
  | assertion a, _ => if a.isLineBound then 1 else 0
  | seq a b, place =>
    let inner := max (a.nesting .factor) (b.nesting .laterFactor)
    match place with
    | .laterFactor => inner
    | .top | .branch | .laterBranch => inner + 1
    | .factor | .operand => inner + 2
  | alt a b, place =>
    let inner := max (a.nesting .branch) (b.nesting .laterBranch)
    match place with
    | .laterBranch => inner
    | .top => inner + 1
    | .branch | .factor | .laterFactor | .operand => inner + 2
  | scope e, place =>
    e.nesting (match place with
      | .laterBranch => .branch
      | .laterFactor => .factor
      | place => place)
  | repeated e _ _ _, place => e.nesting .operand + (if place = .operand then 2 else 1)
  | group _ e, _ => e.nesting .top + 1
  | _, _ => 0

end Expr

end PatternAlgebra.Engine
