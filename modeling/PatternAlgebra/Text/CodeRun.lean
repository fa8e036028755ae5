import PatternAlgebra.Text.Number

/-!
# Runs of code points

Tables of code points are written as runs in hexadecimal with a blank between them: `41` is a single
code point, `41-5a` all from one to another, and `100-12e/2` every second one of these.
-/
namespace PatternAlgebra

structure CodeRun where
  first : Nat
  last : Nat
  step : Nat := 1
  deriving DecidableEq, Repr

namespace CodeRun

def contains (r : CodeRun) (n : Nat) : Bool :=
  r.first ≤ n && n ≤ r.last && (n - r.first) % r.step == 0

/-- The run that a word of a table describes. -/
def ofText (t : Text) : CodeRun :=
  let first := t.takeWhile Text.isHexDigit
  match t.drop first.length with
  | '-' :: t =>
    let last := t.takeWhile Text.isHexDigit
    match t.drop last.length with
    | '/' :: step => ⟨Text.hexValue first, Text.hexValue last, Text.hexValue step⟩
    | _ => ⟨Text.hexValue first, Text.hexValue last, 1⟩
  | _ => ⟨Text.hexValue first, Text.hexValue first, 1⟩

/-- The runs in the lines of a table. -/
def ofLines (lines : List String) : List CodeRun :=
  lines.flatMap fun line => (line.splitOn " ").map fun word => ofText word.toList

end CodeRun

end PatternAlgebra
