import PatternAlgebra.Engine.Regular.Walk

/-!
# Outcomes of regular expressions

`outcomes` lists the ways in which an expression matches from some points, best first: the first
one is what a search finds, the others are what it falls back on. Of several ways to one position
only the best is kept. Expressions without a choice and runs of a single set are listed directly;
a walk lists the rest.
-/
namespace PatternAlgebra.Engine.Context

/-- The positions behind at most `room` members of a set, `pos` itself first. They end at one that
has been seen. -/
def stretch (ctx : Context) (set : CharSet) (seen : Std.HashSet Nat) : (room pos : Nat) → List Nat
  | room, pos =>
    if seen.contains pos then []
    else
      match room, ctx.advance? set pos with
      | room + 1, some next => pos :: ctx.stretch set seen room next
      | _, _ => [pos]

/-- The ends of a run of at least `least` and at most `least + room` members of a set, without
those that have been seen. -/
def runFrom (ctx : Context) (set : CharSet) (least room : Nat) (greedy : Bool)
    (seen : Std.HashSet Nat) (pos : Nat) : List Nat :=
  match ctx.advanceBy? set least pos with
  | some pos =>
    let ends := ctx.stretch set seen room pos
    if greedy then ends.reverse else ends
  | none => []

/-- The ends of runs without an upper bound. Where a run meets an end that has been seen, the rest
of it has been seen too. -/
def unboundedRuns (ctx : Context) (set : CharSet) (least : Nat) (greedy : Bool)
    (seen : Std.HashSet Nat) : List Point → List Point
  | [] => []
  | s :: ss =>
    let ends := ctx.runFrom set least (ctx.text.size - s.pos) greedy seen s.pos
    ends.map s.moveTo ++ ctx.unboundedRuns set least greedy (seen.insertMany ends) ss

/-- The ends of runs of at most `most` members. -/
def boundedRuns (ctx : Context) (set : CharSet) (least most : Nat) (greedy : Bool)
    (seen : Std.HashSet Nat) : List Point → List Point
  | [] => []
  | s :: ss =>
    let ends := (ctx.runFrom set least (most - least) greedy ∅ s.pos).filter (!seen.contains ·)
    ends.map s.moveTo ++ ctx.boundedRuns set least most greedy (seen.insertMany ends) ss

/-- `n` times in a row. -/
def inARow (step : List Point → List Point) : Nat → List Point → List Point
  | 0, ss => ss
  | n + 1, ss => if ss.isEmpty then [] else inARow step n (step ss)

/-- The ways in which an expression matches from any of some points, best first. -/
def outcomes (ctx : Context) : Regular → List Point → List Point
  | .empty, ss => ss
  | .set t, ss => ss.filterMap fun s => (ctx.advance? t s.pos).map s.moveTo
  | .look a, ss => ss.filter fun s => ctx.holds s.pos a
  | .group n e, ss => (ctx.outcomes e (ss.map .enter)).map (.leave n)
  | .seq a b, ss => ctx.outcomes b (ctx.outcomes a ss)
  | .run t least none greedy, ss => ctx.unboundedRuns t least greedy ∅ ss
  | .run t least (some most) greedy, ss => ctx.boundedRuns t least most greedy ∅ ss
  | .between e n 0 _, ss => inARow (ctx.outcomes e) n ss
  | e, ss => ctx.explore e ss

def first? (ctx : Context) (e : Regular) (pos : Nat) : Option Point :=
  (ctx.outcomes e [{ pos }]).head?

end PatternAlgebra.Engine.Context
