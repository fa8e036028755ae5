import PatternAlgebra.Stream.Fragment

/-!
# Visitors

A search shows its fragments to a visitor one at a time. The visitor keeps a state of its own and
says after each fragment whether it wants more.
-/
namespace PatternAlgebra

abbrev Visitor (σ : Type) := Fragment CharRange → σ → σ × Bool

namespace Visitor

/-- Shows a fragment if it is wanted and the visitor has not stopped. -/
def offer {σ : Type} (visit : Visitor σ) (wanted : Bool) (fragment : Fragment CharRange)
    (progress : σ × Bool) : σ × Bool :=
  if progress.2 && wanted then visit fragment progress.1 else progress

/-- Gathers all fragments, the last first, and never stops. -/
def collect : Visitor (List (Fragment CharRange)) := fun fragment found => (fragment :: found, true)

/-- Gathers fragments, the last first, and stops at the one with the given number. -/
def collectUpTo (stop : Option Nat) : Visitor (List (Fragment CharRange)) := fun fragment found =>
  (fragment :: found, stop != some (found.length + 1))

end Visitor

end PatternAlgebra
