import PatternAlgebra.Stream.Fragment

/-!
# Painted lines

A line is cut into spans by a list of fragments: what lies in a match is painted, and a group is
painted where it lies inside its match and does not start before the end of an earlier group.
Everything else is plain.
-/
namespace PatternAlgebra

inductive Paint where
  | plain
  | matched
  | group
  deriving DecidableEq, Repr

namespace Paint

/-- A span of a line, unless it is empty. -/
def span (line : Text) (paint : Paint) (start stop : Nat) : List (Paint × Text) :=
  if start < stop then [(paint, (CharRange.ofBounds start stop).slice line)] else []

/-- The spans of a match from `inner` on: its groups come first in the list. -/
def matchSpans (line : Text) (range : CharRange) :
    (inner : Nat) → List (Fragment CharRange) → List (Paint × Text)
  | inner, .group g _ :: rest =>
    if g.start < inner || range.stop < g.stop then matchSpans line range inner rest
    else
      span line matched inner g.start ++ span line group g.start g.stop ++
        matchSpans line range g.stop rest
  | inner, _ => span line matched inner range.stop

/-- The spans from `cursor` on. Groups that follow no painted match are passed over. -/
def spansFrom (line : Text) : (cursor : Nat) → List (Fragment CharRange) → List (Paint × Text)
  | cursor, [] => span line plain cursor line.length
  | cursor, .matched range :: rest =>
    if range.start < cursor then spansFrom line cursor rest
    else
      span line plain cursor range.start ++ matchSpans line range range.start rest ++
        spansFrom line range.stop rest
  | cursor, _ :: rest => spansFrom line cursor rest

/-- The painted spans of a line. -/
def spans (line : Text) (fragments : List (Fragment CharRange)) : List (Paint × Text) :=
  spansFrom line 0 fragments

end Paint

end PatternAlgebra
