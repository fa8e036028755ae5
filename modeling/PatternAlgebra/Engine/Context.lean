import PatternAlgebra.Engine.Escape

/-!
# The text of a search

The text that is searched, the position at which the search began, and what can be asked about a
single position: whether its character is in a set, whether an assertion holds there, whether a
piece of the text is repeated there.
-/
namespace PatternAlgebra.Engine

/-- A half-open interval of positions in the text that is searched. -/
structure Span where
  start : Nat
  stop : Nat
  deriving DecidableEq, Repr

structure Context where
  text : Array Char
  /-- Where the current search began. -/
  searchStart : Nat
  deriving DecidableEq, Repr

namespace Context

/-- The position behind the next character, if that is in a set. -/
def advance? (ctx : Context) (set : CharSet) (pos : Nat) : Option Nat :=
  match ctx.text[pos]? with
  | some c => if set.contains c then some (pos + 1) else none
  | none => none

/-- The position behind `n` members of a set. -/
def advanceBy? (ctx : Context) (set : CharSet) : (n pos : Nat) → Option Nat
  | 0, pos => some pos
  | n + 1, pos => (ctx.advance? set pos).bind (ctx.advanceBy? set n)

def wordBefore (ctx : Context) (pos : Nat) : Bool := pos != 0 && ctx.text[pos - 1]?.any isWordChar

def wordAfter (ctx : Context) (pos : Nat) : Bool := ctx.text[pos]?.any isWordChar

/-- Whether an assertion holds at a position. What holds at the start of the search holds in front
of it too, where only a lookbehind comes. -/
def holds (ctx : Context) (pos : Nat) : Assertion → Bool
  | .textStart => pos == 0
  | .textEnd => pos == ctx.text.size
  | .lineStart => pos == 0 || ctx.text[pos - 1]? == some '\n'
  | .lineEnd => pos == ctx.text.size || ctx.text[pos]? == some '\n'
  | .wordBoundary => ctx.wordBefore pos != ctx.wordAfter pos
  | .notWordBoundary => ctx.wordBefore pos == ctx.wordAfter pos
  | .wordStart => !ctx.wordBefore pos && ctx.wordAfter pos
  | .wordEnd => ctx.wordBefore pos && !ctx.wordAfter pos
  | .searchStart => pos ≤ ctx.searchStart

/-- Whether `n` characters from `i` on are the same as those from `j` on. -/
def sameText (ctx : Context) : (n i j : Nat) → Bool
  | 0, _, _ => true
  | n + 1, i, j =>
    match ctx.text[i]?, ctx.text[j]? with
    | some c, some d => c == d && ctx.sameText n (i + 1) (j + 1)
    | _, _ => false

/-- The position behind a repetition of what a span holds. -/
def repeat? (ctx : Context) (span : Span) (pos : Nat) : Option Nat :=
  let length := span.stop - span.start
  if ctx.sameText length span.start pos then some (pos + length) else none

end Context

end PatternAlgebra.Engine
