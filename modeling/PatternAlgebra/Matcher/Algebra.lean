import PatternAlgebra.Matcher.Basic

/-!
# The algebra of matchers

Inversion, conjunction and disjunction with their simplifications: inverting twice gives the source
back, the trivial matchers decide where they come first, and a combination takes in the children
of combinations of its own kind.
-/
namespace PatternAlgebra.Matcher

def inverse : Matcher → Matcher
  | nothing => whole
  | whole => nothing
  | inversion m => m
  | m => inversion m

/-- What a matcher contributes to a conjunction. -/
def conjuncts : Matcher → List Matcher
  | conjunction ms => ms
  | m => [m]

/-- What a matcher contributes to a disjunction. -/
def disjuncts : Matcher → List Matcher
  | disjunction ms => ms
  | m => [m]

def allOf (ms : List Matcher) : Matcher := conjunction (ms.flatMap conjuncts)

def anyOf (ms : List Matcher) : Matcher := disjunction (ms.flatMap disjuncts)

def and (m n : Matcher) : Matcher :=
  match m with
  | nothing => nothing
  | whole => n
  | m => allOf [m, n]

def or (m n : Matcher) : Matcher :=
  match m with
  | nothing => n
  | whole => whole
  | m => anyOf [m, n]

end PatternAlgebra.Matcher
