import PatternAlgebra.Engine.Regular.Basic

/-!
# Limits of regular expressions

An expression is refused when its notation nests too deep or when it would be too large once all
repetitions are written out. Two automata are built of it, one for each direction of reading, and
neither may be too large. Their sizes are estimates: they count the states of the usual construction,
but the states for large sets of characters only roughly.
-/
namespace PatternAlgebra.Engine

namespace Regular

def nestingLimit : Nat := 250

def sizeLimit : Nat := 10 * 0x100000

/-- How many bytes the copies of a part take, of which each takes `e` bytes: those that are required,
and those that can be left out together with the ones behind them. -/
def copies (e least extra : Nat) : Nat :=
  if extra = 0 then least * e
  else if least = 0 ∧ extra = 1 then e + 72
  else least * e + extra * (e + 40) + if least = 0 then 64 else 32

/-- Whether a regular expression is a choice. -/
def isChoice : Regular → Bool
  | alt _ _ => true
  | _ => false

/-- About how many bytes the automaton for one direction takes, once all repetitions are written out.
Groups are marked in the forward direction only. -/
def bytes (backward : Bool) : Regular → Nat
  | empty | look _ => 32
  | set s => s.bytes backward
  | group _ e => e.bytes backward + if backward then 0 else 64
  | seq a b => a.bytes backward + b.bytes backward
  | alt a b => a.bytes backward + b.bytes backward + if b.isChoice then 4 else 72
  | run s least most _ =>
    most.elim (max least 1 * s.bytes backward + 40) fun most =>
      copies (s.bytes backward) least (most - least)
  | between e least extra _ => copies (e.bytes backward) least extra
  | onward e skipped _ => (skipped + 1) * e.bytes backward + 40
  | zeroOrMore e _ => e.bytes backward + 40

/-- What an automaton takes besides: the way to the start of a match, the start and the end of the
whole match as a group, and the final state. -/
def overhead (backward : Bool) : Nat := if backward then 144 else 208

/-- The size of the larger automaton. -/
def size (e : Regular) : Nat :=
  max (e.bytes false + overhead false) (e.bytes true + overhead true)

/-- The expression, unless it is too large or its notation nests too deep. -/
def withinLimits? (depth : Nat) (e : Regular) : Option Regular :=
  if depth ≤ nestingLimit ∧ e.size ≤ sizeLimit then some e else none

/-- The regular expression for a whole grammar. -/
def ofWhole? (e : Expr) : Option Regular := (ofExpr? e).bind (withinLimits? (e.nesting .top))

/-- The regular expression for parts in a row. -/
def ofParts? (es : List Expr) : Option Regular := do
  let depths := es.map (·.nesting .branch)
  let depth := (if es.length = 1 then 0 else 1) + depths.foldl max 0
  withinLimits? depth (ofFactors (← es.mapM ofExpr?))

end Regular

end PatternAlgebra.Engine
