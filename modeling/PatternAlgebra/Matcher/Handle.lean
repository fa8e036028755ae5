import PatternAlgebra.Matcher.Algebra

/-!
# Handles

Clients hold matchers by handles and can ask whether two handles are the same. Building a matcher
makes a new handle, except where the algebra gives one of its arguments back: the inverse of an
inverse is the handle of its source, and a trivial matcher that comes first decides which handle
a conjunction or disjunction is.
-/
namespace PatternAlgebra

/-- Who a handle is. The handle of an inversion knows the one of its source. -/
inductive Identity where
  | made (serial : Nat)
  | inversionOf (serial : Nat) (source : Identity)
  deriving DecidableEq, Repr

structure Handle where
  identity : Identity
  matcher : Matcher
  deriving Repr

namespace Handle

/-- Whether two handles are the same one. -/
def same (h k : Handle) : Bool := h.identity == k.identity

/-- Makes a new handle, with the next serial number. -/
def make (m : Matcher) : StateM Nat Handle := do
  let serial ← getModify (· + 1)
  return ⟨.made serial, m⟩

/-- A new inversion, without simplification. -/
def invert (h : Handle) : StateM Nat Handle := do
  let serial ← getModify (· + 1)
  return ⟨.inversionOf serial h.identity, .inversion h.matcher⟩

def inverse (h : Handle) : StateM Nat Handle :=
  match h.matcher, h.identity with
  | .nothing, _ => make .whole
  | .whole, _ => make .nothing
  | .inversion m, .inversionOf _ source => return ⟨source, m⟩
  | .inversion m, .made _ => make m
  | _, _ => invert h

def allOf (hs : List Handle) : StateM Nat Handle := make (Matcher.allOf (hs.map matcher))

def anyOf (hs : List Handle) : StateM Nat Handle := make (Matcher.anyOf (hs.map matcher))

def and (h k : Handle) : StateM Nat Handle :=
  match h.matcher with
  | .nothing => return h
  | .whole => return k
  | _ => allOf [h, k]

def or (h k : Handle) : StateM Nat Handle :=
  match h.matcher with
  | .nothing => return k
  | .whole => return h
  | _ => anyOf [h, k]

end Handle

end PatternAlgebra
