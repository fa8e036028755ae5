import PatternAlgebra.Matcher.Stream

/-!
# Queries

What clients ask of a matcher: the first match, the matches, the fragments and the unmatched
segments of a target, as ranges or as text.
-/
namespace PatternAlgebra.Matcher

/-- The fragments that a selection asks for. -/
def ranges (m : Matcher) (target : Text) (selection : Selection) : List (Fragment CharRange) :=
  (m.iterate target selection Visitor.collect []).2.reverse

def substrings (m : Matcher) (target : Text) (selection : Selection) : List (Fragment Text) :=
  (m.ranges target selection).map (Fragment.substring target)

/-- The count and the fragments of an iteration whose visitor stops at the fragment with the
given number. -/
def rangesUpTo (m : Matcher) (target : Text) (selection : Selection) (stop : Option Nat) :
    Nat × List (Fragment CharRange) :=
  let (count, found) := m.iterate target selection (Visitor.collectUpTo stop) []
  (count, found.reverse)

def first (m : Matcher) (target : Text) : Option Text := (m.locate target).map (·.slice target)

def matchesWith (m : Matcher) (target : Text) (selection : Selection) : List (Fragment Text) :=
  m.substrings target (selection.withoutKind .unmatched)

def allMatches (m : Matcher) (target : Text) : List (Fragment Text) :=
  m.matchesWith target .matchesOnly

def matchRangesWith (m : Matcher) (target : Text) (selection : Selection) :
    List (Fragment CharRange) :=
  m.ranges target (selection.withoutKind .unmatched)

def matchRanges (m : Matcher) (target : Text) : List (Fragment CharRange) :=
  m.matchRangesWith target .matchesOnly

def fragmentsWith (m : Matcher) (target : Text) (selection : Selection) : List (Fragment Text) :=
  m.substrings target selection

def fragments (m : Matcher) (target : Text) : List (Fragment Text) :=
  m.fragmentsWith target .everything

/-- The unmatched segments that a selection leaves. -/
def splitWith (m : Matcher) (target : Text) (selection : Selection) : List Text :=
  (m.ranges target (selection.withKind .unmatched)).filterMap fun
    | .unmatched range => some (range.slice target)
    | _ => none

def split (m : Matcher) (target : Text) : List Text := m.splitWith target .unmatchedOnly

end PatternAlgebra.Matcher
