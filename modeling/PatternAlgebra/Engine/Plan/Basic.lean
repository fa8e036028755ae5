import PatternAlgebra.Engine.Regular.Size

/-!
# Search plans

How an expression that needs backtracking is searched for. Easy parts are left to a search of
their own wherever nothing has to be given back to them: in a sequence the leading parts of fixed
size and what stands behind the last part that needs backtracking, and elsewhere whole bodies of
lookaround and of atomic groups. Such a `unit` matches in one way only, and it says anew what all
of its groups hold.
-/
namespace PatternAlgebra.Engine

inductive Plan where
  | done
  | set (s : CharSet)
  | check (a : Assertion)
  | keep
  /-- An easy part, which has only one outcome, and its groups. -/
  | unit (e : Regular) (groups : List Nat)
  | seq (first rest : Plan)
  | alt (first rest : Plan)
  | group (index : Nat) (body : Plan)
  | zeroOrMore (body : Plan) (greedy : Bool)
  | oneOrMore (body : Plan) (greedy : Bool)
  /-- At least `least` times; every further iteration has to move on. -/
  | moving (body : Plan) (least : Nat) (greedy : Bool)
  /-- At least `least` and at most `most` times, the upper bound being the stronger one. -/
  | counted (body : Plan) (least : Nat) (most : Option Nat) (greedy : Bool)
  | atomic (body : Plan)
  /-- Holds where the body matches from `back` characters further left. -/
  | look (back : Nat) (body : Plan)
  | notLook (back : Nat) (body : Plan)
  | backref (index : Nat)
  | participated (index : Nat)
  | conditional (condition yes no : Plan)
  deriving DecidableEq, Repr

namespace Plan

/-- Whether some group is referred to from its own inside, where `around` are the groups around the
plan. -/
def refersInside (around : List Nat) : Plan → Bool
  | backref n => around.contains n
  | seq p q | alt p q => p.refersInside around || q.refersInside around
  | group n p => p.refersInside (n :: around)
  | zeroOrMore p _ | oneOrMore p _ | moving p _ _ | counted p _ _ _ | atomic p | look _ p
  | notLook _ p => p.refersInside around
  | conditional c p q => c.refersInside around || p.refersInside around || q.refersInside around
  | done | set _ | check _ | keep | unit _ _ | participated _ => false

def movesStart : Plan → Bool
  | keep => true
  | seq p q | alt p q => p.movesStart || q.movesStart
  | group _ p | zeroOrMore p _ | oneOrMore p _ | moving p _ _ | counted p _ _ _ | atomic p
  | look _ p | notLook _ p => p.movesStart
  | conditional c p q => c.movesStart || p.movesStart || q.movesStart
  | done | set _ | check _ | unit _ _ | backref _ | participated _ => false

/-- One after the other, without parts that do nothing. -/
def append : Plan → Plan → Plan
  | done, p => p
  | p, done => p
  | p, q => seq p q

/-- Leaves easy parts in a row to a search of their own. -/
def unit? (es : List Expr) : Option Plan :=
  if es.isEmpty then some done
  else (Regular.ofParts? es).map fun e => unit e (es.flatMap Expr.groups)

/-- How an expression is met on the way through the whole. Where the way is `tight`, something
behind the expression may have to fall back on its other outcomes. -/
inductive Way where
  | whole (tight : Bool)
  /-- The last alternatives of a choice. -/
  | branch (tight : Bool)
  /-- The rest of a sequence that so far had easy parts of fixed size, the last first. -/
  | lead (tight : Bool) (parts : List Expr)
  /-- The rest of a sequence behind such parts. -/
  | rest (tight : Bool)
  deriving DecidableEq, Repr

/-- Whether the end of a sequence can be left to a search of its own. -/
def isUnit (tight : Bool) (e : Expr) : Bool := e.isEasy && (!tight || e.isFixed)

/-- The plan for an expression that is no sequence. `direct` is the plan that is made of those for
its parts. -/
def settle (way : Way) (e : Expr) (direct : (tight : Bool) → Option Plan) : Option Plan :=
  let behind (tight : Bool) := if isUnit tight e then unit? [e] else direct true
  match way with
  | .whole tight | .branch tight => if !tight && e.isEasy then unit? [e] else direct tight
  | .rest tight => behind tight
  | .lead tight parts =>
    if e.isEasy && e.isFixed then unit? (e :: parts).reverse
    else do some (append (← unit? parts.reverse) (← behind tight))

/-- The plan for a sequence, where `first` and `rest` are the plans for its parts. -/
def chain (way : Way) (a b : Expr) (first : Option Plan) (rest : Way → Option Plan) :
    Option Plan :=
  let behind (tight : Bool) : Option Plan :=
    if isUnit tight (.seq a b) then unit? (a :: b.factors)
    else do some (append (← first) (← rest (.rest tight)))
  let lead (tight : Bool) (parts : List Expr) : Option Plan :=
    if a.isEasy && a.isFixed then rest (.lead tight (a :: parts))
    else do some (append (← unit? parts.reverse) (← behind tight))
  match way with
  | .whole tight | .branch tight =>
    if !tight && a.isEasy && b.isEasy then unit? [.seq a b] else lead tight []
  | .lead tight parts => lead tight parts
  | .rest tight => behind tight

def repeated (e : Expr) (least : Nat) (most : Option Nat) (greedy : Bool) (body : Plan) : Plan :=
  match most with
  | none =>
    if e.minSize = 0 then moving body least greedy
    else if least = 0 then zeroOrMore body greedy
    else if least = 1 then oneOrMore body greedy
    else counted body least none greedy
  | some most =>
    if least = 0 ∧ most = 1 then if greedy then alt body done else alt done body
    else counted body least (some most) greedy

/-- The plan for an expression. There is none when an easy part of it is refused, or when a
lookbehind has no fixed size. -/
def ofExpr? : Expr → Way → Option Plan
  | .seq a b, way => chain way a b (ofExpr? a (.whole true)) (ofExpr? b)
  | .alt a b, way =>
    let direct (tight : Bool) : Option Plan := do
      some (alt (← ofExpr? a (.whole tight)) (← ofExpr? b (.branch tight)))
    match way with
    | .branch tight => direct tight
    | way => settle way (.alt a b) direct
  | .scope e, way => settle way (.scope e) fun tight => ofExpr? e (.whole tight)
  | .repeated e least most greedy, way =>
    settle way (.repeated e least most greedy) fun tight =>
      let within := if least = 0 ∧ most = some 1 then tight else tight || !e.isEasy
      (ofExpr? e (.whole within)).map (repeated e least most greedy)
  | .group n e, way =>
    settle way (.group n e) fun tight => (ofExpr? e (.whole tight)).map (group n)
  | .conditional c y n, way =>
    settle way (.conditional c y n) fun tight => do
      some (conditional (← ofExpr? c (.whole tight)) (← ofExpr? y (.whole tight))
        (← ofExpr? n (.whole tight)))
  | .atomic e, way => settle way (.atomic e) fun _ => (ofExpr? e (.whole false)).map atomic
  | .ahead negated e, way =>
    settle way (.ahead negated e) fun _ =>
      (ofExpr? e (.whole false)).map (if negated then notLook 0 else look 0)
  | .behind negated e, way =>
    settle way (.behind negated e) fun _ =>
      if e.isFixed then
        (ofExpr? e (.whole false)).map (if negated then notLook e.minSize else look e.minSize)
      else none
  | .set s depth, way =>
    settle way (.set s depth) fun _ =>
      if depth ≤ Regular.nestingLimit then some (set s) else none
  | .overrun caseless a b, way =>
    settle way (.overrun caseless a b) fun _ => unit? [.overrun caseless a b]
  | .assertion a, way => settle way (.assertion a) fun _ => some (check a)
  | .empty, way => settle way .empty fun _ => some done
  | .keep, way => settle way .keep fun _ => some keep
  | .backref n, way => settle way (.backref n) fun _ => some (backref n)
  | .participated n, way => settle way (.participated n) fun _ => some (participated n)

end Plan

end PatternAlgebra.Engine
