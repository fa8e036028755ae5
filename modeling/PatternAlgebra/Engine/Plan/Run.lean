import PatternAlgebra.Engine.Plan.Basic
import PatternAlgebra.Engine.Regular.Outcome

/-!
# Running a plan

A plan is run with what comes behind it as an argument. Every choice that is left open can be
fallen back on, the last one first; the choices are numbered from zero, so the number of a new one
is the number of those that are open. An atomic group drops the choices that were made inside it.
A run that has fallen back too often, or that would leave too many choices open, gives up.

A group that is referred to from its own inside may have been entered further right than it was
last left. It then holds no piece of the text at all, and the run is broken off.
-/
namespace PatternAlgebra.Engine

/-- Where a group was last entered, and where it was last left, if ever. -/
structure Mark where
  start : Nat
  stop : Option Nat := none
  deriving DecidableEq, Repr

structure State where
  pos : Nat
  start : Nat
  /-- The marks of the groups, the last one set first. -/
  marks : List (Nat × Mark) := []
  /-- The choices that were open when each of the atomic groups around was entered. -/
  kept : List Nat := []
  deriving DecidableEq, Repr

namespace State

def mark? (s : State) (n : Nat) : Option Mark := s.marks.lookup n

def unmark (n : Nat) (s : State) : State := { s with marks := s.marks.filter (·.1 != n) }

def setMark (n : Nat) (m : Mark) (s : State) : State :=
  { s with marks := (n, m) :: (s.unmark n).marks }

def group? (s : State) (n : Nat) : Option Span := do
  let m ← s.mark? n
  let stop ← m.stop
  some ⟨m.start, stop⟩

def enter (n : Nat) (s : State) : State := s.setMark n ⟨s.pos, (s.mark? n).bind (·.stop)⟩

def leave (n : Nat) (s : State) : State :=
  s.setMark n ⟨(s.mark? n).elim s.pos (·.start), some s.pos⟩

/-- The state behind a unit with these groups. -/
def adopt (groups : List Nat) (point : Point) (s : State) : State :=
  groups.foldl (fun s n =>
    match point.groups.lookup n with
    | some span => s.setMark n ⟨span.start, some span.stop⟩
    | none => s.unmark n) { s with pos := point.pos }

end State

inductive Run where
  | matched (s : State)
  /-- There is nothing left to try above the first `choices` choices. `retries` counts how often the
  run has fallen back on a choice. -/
  | failed (choices retries : Nat)
  | gaveUp
  | broken
  deriving DecidableEq, Repr

/-- What comes behind a part of a plan, given the number of open choices and of retries. -/
abbrev Next := State → (choices retries : Nat) → Run

namespace Run

/-- How often a run can fall back on a choice. -/
def retryLimit : Nat := 1000000

/-- How many choices can be open at once. -/
def choiceLimit : Nat := 1000000

def either (first second : Next) : Next := fun s choices retries =>
  if choices < choiceLimit then
    match first s (choices + 1) retries with
    | failed left retries =>
      if left = choices + 1 then
        if retries < retryLimit then second s choices (retries + 1) else gaveUp
      else failed left retries
    | r => r
  else gaveUp

/-- The preferred way is the first or, if not `greedy`, the second one. -/
def prefer (greedy : Bool) (first second : Next) : Next :=
  if greedy then either first second else either second first

/-- Any number of times. A run that goes round without moving on gives up. -/
def anyNumber (step : Next → Next) (greedy : Bool) (next : Next) : (fuel : Nat) → Next
  | 0, _, _, _ => gaveUp
  | fuel + 1, s, choices, retries =>
    prefer greedy (step (anyNumber step greedy next fuel)) next s choices retries

/-- Iteration `count` and the further ones, where `previous` is the position at the beginning of
the last one that was not required. -/
def moving (step : Next → Next) (least : Nat) (greedy : Bool) (next : Next) :
    (fuel count previous : Nat) → Next
  | 0, _, _, _, _, _ => gaveUp
  | fuel + 1, count, previous, s, choices, retries =>
    if least < count ∧ previous = s.pos then failed choices retries
    else if count < least then
      step (moving step least greedy next fuel (count + 1) previous) s choices retries
    else
      prefer greedy (step (moving step least greedy next fuel (count + 1) s.pos)) next s choices
        retries

/-- Iteration `count` and the further ones, up to the upper bound. -/
def counted (step : Next → Next) (least : Nat) (most : Option Nat) (greedy : Bool) (next : Next) :
    (fuel count : Nat) → Next
  | 0, _, _, _, _ => gaveUp
  | fuel + 1, count, s, choices, retries =>
    if most = some count then next s choices retries
    else
      let onward := step (counted step least most greedy next fuel (count + 1))
      if count < least then onward s choices retries
      else prefer greedy onward next s choices retries

def enter (next : Next) : Next := fun s choices retries =>
  next { s with kept := choices :: s.kept } choices retries

/-- Leaves the atomic part that was entered last, and drops the choices made inside. -/
def leave (next : Next) : Next := fun s _ retries =>
  match s.kept with
  | choices :: kept => next { s with kept } choices retries
  | [] => failed 0 retries

end Run

namespace Context

/-- Tries a body `back` characters further left, and goes on from here. -/
def lookBack (back : Nat) (body : Next → Next) (next : Next) : Next := fun s choices retries =>
  if back ≤ s.pos then
    body (fun t => next { t with pos := s.pos }) { s with pos := s.pos - back } choices retries
  else .failed choices retries

def runBackref (ctx : Context) (n : Nat) (next : Next) : Next := fun s choices retries =>
  match s.group? n with
  | none => .failed choices retries
  | some span =>
    if span.stop < span.start then .broken
    else
      match ctx.repeat? span s.pos with
      | some pos => next { s with pos } choices retries
      | none => .failed choices retries

/-- More than the iterations that are counted: as many as the bound allows, and without a bound those
that are required and one for each character, since each of them moves on. -/
def countFuel (ctx : Context) (least : Nat) (most : Option Nat) : Nat :=
  most.getD (least + ctx.text.size) + 1

def run (ctx : Context) : Plan → Next → Next
  | .done, next, s, choices, retries => next s choices retries
  | .set t, next, s, choices, retries =>
    match ctx.advance? t s.pos with
    | some pos => next { s with pos } choices retries
    | none => .failed choices retries
  | .check a, next, s, choices, retries =>
    if ctx.holds s.pos a then next s choices retries else .failed choices retries
  | .keep, next, s, choices, retries => next { s with start := s.pos } choices retries
  | .unit e groups, next, s, choices, retries =>
    match ctx.first? e s.pos with
    | some point => next (s.adopt groups point) choices retries
    | none => .failed choices retries
  | .seq p q, next, s, choices, retries => ctx.run p (ctx.run q next) s choices retries
  | .alt p q, next, s, choices, retries =>
    Run.either (ctx.run p next) (ctx.run q next) s choices retries
  | .group n p, next, s, choices, retries =>
    ctx.run p (fun s => next (s.leave n)) (s.enter n) choices retries
  | .zeroOrMore p greedy, next, s, choices, retries =>
    Run.anyNumber (ctx.run p) greedy next (ctx.text.size + 2) s choices retries
  | .oneOrMore p greedy, next, s, choices, retries =>
    ctx.run p (Run.anyNumber (ctx.run p) greedy next (ctx.text.size + 2)) s choices retries
  | .moving p least greedy, next, s, choices, retries =>
    Run.moving (ctx.run p) least greedy next (least + ctx.text.size + 3) 0 0 s choices retries
  | .counted p least most greedy, next, s, choices, retries =>
    Run.counted (ctx.run p) least most greedy next (ctx.countFuel least most) 0 s choices retries
  | .atomic p, next, s, choices, retries =>
    Run.enter (ctx.run p (Run.leave next)) s choices retries
  | .look back p, next, s, choices, retries => lookBack back (ctx.run p) next s choices retries
  | .notLook back p, next, s, choices, retries =>
    let matched : Next := fun _ _ retries => .failed choices retries
    Run.either (lookBack back (ctx.run p) matched) next s choices retries
  | .backref n, next, s, choices, retries => ctx.runBackref n next s choices retries
  | .participated n, next, s, choices, retries =>
    if n = 0 ∨ (s.mark? n).isSome then next s choices retries else .failed choices retries
  | .conditional c p q, next, s, choices, retries =>
    Run.enter (Run.either (ctx.run c (Run.leave (ctx.run p next))) (ctx.run q next)) s choices
      retries

end Context

end PatternAlgebra.Engine
