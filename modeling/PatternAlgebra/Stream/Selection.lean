import PatternAlgebra.Stream.Fragment

/-!
# Selections

What a client wants of a search: the kinds of fragments and the greatest number of matches. A
selection can carry a payload for matchers that a client writes; the library never reads it.
-/
namespace PatternAlgebra

structure Selection where
  kinds : KindSet
  /-- The greatest number of matches, without bound when absent. -/
  limit : Option Nat := none
  payload : Option Text := none
  deriving DecidableEq, Repr

namespace Selection

def everything : Selection := { kinds := .all }
def matchesOnly : Selection := { kinds := .matchedOnly }
def deepMatches : Selection := { kinds := .deep }
/-- The first match and its groups. -/
def firstMatch : Selection := { kinds := .deep, limit := some 1 }
def unmatchedOnly : Selection := { kinds := .unmatchedOnly }
def shallow : Selection := { kinds := .shallow }

/-- Whether a total of `count` matches is within the limit. -/
def allows (s : Selection) (count : Nat) : Bool :=
  match s.limit with
  | none => true
  | some limit => count ≤ limit

def allowsKind (s : Selection) (kind : FragmentKind) : Bool := s.kinds.contains kind

def withLimit (s : Selection) (limit : Option Nat) : Selection := { s with limit }

def withKinds (s : Selection) (kinds : KindSet) : Selection := { s with kinds }

def withKind (s : Selection) (kind : FragmentKind) : Selection := s.withKinds (s.kinds.insert kind)

def withoutKind (s : Selection) (kind : FragmentKind) : Selection :=
  s.withKinds (s.kinds.erase kind)

def withPayload (s : Selection) (payload : Text) : Selection := { s with payload := some payload }

end Selection

end PatternAlgebra
