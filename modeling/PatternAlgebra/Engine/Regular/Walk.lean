import PatternAlgebra.Engine.Context
import PatternAlgebra.Engine.Regular.Basic
import Std.Data.HashSet.Basic

/-!
# Walks through regular expressions

A walk tries the ways through an expression depth first, the better way first, and enters every
node of the expression at most once at each position. So it meets every position at which the
expression can end, the best way to it first, in time that grows with the text and not with the
number of ways. Entering a node twice at one position would repeat what has failed, or go round
in a repetition without moving on.

`walk` is written with what comes behind as an argument. Nodes where a way divides are numbered in
the order of the expression; each copy of a repeated body has numbers of its own.
-/
namespace PatternAlgebra.Engine

/-- A position on the way through an expression: what the groups have captured, the last first, and
where the groups that are open were entered, the innermost first. -/
structure Point where
  pos : Nat
  groups : List (Nat × Span) := []
  opened : List Nat := []
  deriving DecidableEq, Repr

namespace Point

def enter (s : Point) : Point := { s with opened := s.pos :: s.opened }

/-- Leaves group `n`, which was the last one to be entered. -/
def leave (n : Nat) (s : Point) : Point :=
  match s.opened with
  | start :: opened =>
    ⟨s.pos, (n, ⟨start, s.pos⟩) :: s.groups.filter (·.1 != n), opened⟩
  | [] => s

def moveTo (s : Point) (pos : Nat) : Point := { s with pos }

end Point

namespace Regular

/-- How many numbers the nodes of an expression need. -/
def nodes : Regular → Nat
  | empty | set _ | look _ => 0
  | group _ e => e.nodes
  | seq a b => a.nodes + b.nodes
  | alt a b => 1 + a.nodes + b.nodes
  | run _ least most _ => most.elim 1 (· - least)
  | between e least extra _ => least * e.nodes + extra * (1 + e.nodes)
  | onward e skipped _ => skipped * e.nodes + (1 + e.nodes)
  | zeroOrMore e _ => 1 + e.nodes

end Regular

/-- The nodes that have been entered, each with a position, and the ends that have been found, the
last first. -/
structure Walk where
  seen : Std.HashSet (Nat × Nat) := ∅
  found : List Point := []

namespace Walk

/-- Goes on unless the node has been entered at this position. -/
def once (w : Walk) (node pos : Nat) (go : Walk → Walk) : Walk :=
  if w.seen.contains (node, pos) then w else go { w with seen := w.seen.insert (node, pos) }

/-- Notes an end; only the first one at each position counts. -/
def stop (node : Nat) (s : Point) (w : Walk) : Walk :=
  w.once node s.pos fun w => { w with found := s :: w.found }

end Walk

abbrev Visit := Point → Walk → Walk

namespace Walk

def inOrder (greedy : Bool) (first second : Walk → Walk) (w : Walk) : Walk :=
  if greedy then second (first w) else first (second w)

/-- `n` steps in a row, the first of them with the number `i`. -/
def times (step : (i : Nat) → Visit → Visit) : (n i : Nat) → Visit → Visit
  | 0, _, next, s, w => next s w
  | n + 1, i, next, s, w => step i (times step n (i + 1) next) s w

/-- At most `n` steps in a row. The node before step `i` is `node i`. -/
def atMost (step : (i : Nat) → Visit → Visit) (node : Nat → Nat) (greedy : Bool) :
    (n i : Nat) → Visit → Visit
  | 0, _, next, s, w => next s w
  | n + 1, i, next, s, w =>
    w.once (node i) s.pos
      (inOrder greedy (step i (atMost step node greedy n (i + 1) next) s) (next s))

/-- Any number of steps. The node before each of them is entered once at a position, which is why
`fuel` above the rest of the text suffices. -/
def anyNumber (step : Visit → Visit) (node : Nat) (greedy : Bool) : (fuel : Nat) → Visit → Visit
  | 0, _, _, w => w
  | fuel + 1, next, s, w =>
    w.once node s.pos
      (inOrder greedy (step (anyNumber step node greedy fuel next) s) (next s))

end Walk

namespace Context

def walkSet (ctx : Context) (set : CharSet) : Visit → Visit := fun next s w =>
  match ctx.advance? set s.pos with
  | some pos => next (s.moveTo pos) w
  | none => w

/-- Visits every end of an expression whose nodes are numbered from `base` on. -/
def walk (ctx : Context) : Regular → (base : Nat) → Visit → Visit
  | .empty, _, next, s, w => next s w
  | .set t, _, next, s, w => ctx.walkSet t next s w
  | .look a, _, next, s, w => if ctx.holds s.pos a then next s w else w
  | .group n e, base, next, s, w => ctx.walk e base (fun s => next (s.leave n)) s.enter w
  | .seq a b, base, next, s, w => ctx.walk a base (ctx.walk b (base + a.nodes) next) s w
  | .alt a b, base, next, s, w =>
    w.once base s.pos
      (Walk.inOrder true (ctx.walk a (base + 1) next s) (ctx.walk b (base + 1 + a.nodes) next s))
  | .run t least most greedy, base, next, s, w =>
    match ctx.advanceBy? t least s.pos, most with
    | none, _ => w
    | some pos, some most =>
      Walk.atMost (fun _ => ctx.walkSet t) (base + ·) greedy (most - least) 0 next (s.moveTo pos) w
    | some pos, none =>
      Walk.anyNumber (ctx.walkSet t) base greedy (ctx.text.size + 1 - pos) next (s.moveTo pos) w
  | .between e least extra greedy, base, next, s, w =>
    let width := e.nodes
    let more := base + least * width
    let node (i : Nat) : Nat := more + i * (1 + width)
    let step (i : Nat) : Visit → Visit := ctx.walk e (base + i * width)
    let option (i : Nat) : Visit → Visit := ctx.walk e (node i + 1)
    Walk.times step least 0 (Walk.atMost option node greedy extra 0 next) s w
  | .onward e skipped greedy, base, next, s, w =>
    let width := e.nodes
    let node := base + skipped * width
    let step (i : Nat) : Visit → Visit := ctx.walk e (base + i * width)
    let last : Visit → Visit := ctx.walk e (node + 1)
    let more : Visit := fun s w =>
      Walk.anyNumber last node greedy (ctx.text.size + 1 - s.pos) next s w
    Walk.times step skipped 0 (last more) s w
  | .zeroOrMore e greedy, base, next, s, w =>
    Walk.anyNumber (ctx.walk e (base + 1)) base greedy (ctx.text.size + 1 - s.pos) next s w

/-- The ends of an expression from any of some points, best first. -/
def explore (ctx : Context) (e : Regular) (ss : List Point) : List Point :=
  (ss.foldl (fun w s => ctx.walk e 0 (fun s w => w.stop e.nodes s) s w) {}).found.reverse

end Context

end PatternAlgebra.Engine
