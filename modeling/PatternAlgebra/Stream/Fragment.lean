import PatternAlgebra.Text.CharRange

/-!
# Fragments

A search classifies the regions of its target: matched regions, unmatched regions, and the
capture groups inside a match, which count from zero. A `KindSet` says which of them a client
wants to see.
-/
namespace PatternAlgebra

inductive Fragment (α : Type) where
  | matched (content : α)
  | unmatched (content : α)
  | group (content : α) (id : Nat)
  deriving DecidableEq, Repr

inductive FragmentKind where
  | matched
  | group
  | unmatched
  deriving DecidableEq, Repr

namespace Fragment

def content {α : Type} : Fragment α → α
  | matched a => a
  | unmatched a => a
  | group a _ => a

def kind {α : Type} : Fragment α → FragmentKind
  | matched _ => .matched
  | unmatched _ => .unmatched
  | group _ _ => .group

/-- Change the content; the kind and a group's number stay. -/
def map {α β : Type} (f : α → β) : Fragment α → Fragment β
  | matched a => matched (f a)
  | unmatched a => unmatched (f a)
  | group a id => group (f a) id

/-- The fragment as the part of `target` that it covers. -/
def substring (target : Text) (fragment : Fragment CharRange) : Fragment Text :=
  fragment.map (·.slice target)

end Fragment

structure KindSet where
  matched : Bool
  group : Bool
  unmatched : Bool
  deriving DecidableEq, Repr

namespace KindSet

def none : KindSet := ⟨false, false, false⟩
def matchedOnly : KindSet := ⟨true, false, false⟩
def groupOnly : KindSet := ⟨false, true, false⟩
def unmatchedOnly : KindSet := ⟨false, false, true⟩
/-- Matches and their groups. -/
def deep : KindSet := ⟨true, true, false⟩
/-- Matched and unmatched regions without groups. -/
def shallow : KindSet := ⟨true, false, true⟩
def all : KindSet := ⟨true, true, true⟩

def contains (s : KindSet) : FragmentKind → Bool
  | .matched => s.matched
  | .group => s.group
  | .unmatched => s.unmatched

def union (s t : KindSet) : KindSet :=
  ⟨s.matched || t.matched, s.group || t.group, s.unmatched || t.unmatched⟩

def insert (s : KindSet) : FragmentKind → KindSet
  | .matched => { s with matched := true }
  | .group => { s with group := true }
  | .unmatched => { s with unmatched := true }

def erase (s : KindSet) : FragmentKind → KindSet
  | .matched => { s with matched := false }
  | .group => { s with group := false }
  | .unmatched => { s with unmatched := false }

def isEmpty (s : KindSet) : Bool := !(s.matched || s.group || s.unmatched)

end KindSet

end PatternAlgebra
