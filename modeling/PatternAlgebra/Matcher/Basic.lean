import PatternAlgebra.Regex.Basic

/-!
# Matchers

A matcher is a regular expression, one of the two trivial matchers, or a combination of others.
`locate` finds the first match and `hasMatches` asks for one; streams and replacements build on
both.
-/
namespace PatternAlgebra

/-- A matcher that a client writes down: it shows the same fragments for every target. -/
structure Script where
  fragments : List (Fragment CharRange)
  /-- Whether fragments are shown whose kind is not asked for. -/
  ignoreKinds : Bool
  deriving DecidableEq, Repr

inductive Matcher where
  | regex (r : Regex)
  | nothing
  | whole
  /-- Matches where all of its children have a match. -/
  | conjunction (children : List Matcher)
  /-- Matches where one of its children has a match. -/
  | disjunction (children : List Matcher)
  /-- Matches the regions that its source leaves unmatched. -/
  | inversion (source : Matcher)
  | scripted (s : Script)
  deriving Repr

/-- The range with the smallest start, the first of them when there are several. -/
def CharRange.earliest : List CharRange → Option CharRange
  | [] => none
  | r :: rs => some (rs.foldl (fun best q => if q.start < best.start then q else best) r)

namespace Script

def locate (s : Script) : Option CharRange :=
  s.fragments.findSome? fun
    | .matched r => some r
    | _ => none

/-- Shows the rest of the fragments, of which `count` were matches so far. -/
def visitFragments {σ : Type} (ignoreKinds : Bool) (selection : Selection) (visit : Visitor σ) :
    (count : Nat) → List (Fragment CharRange) → σ → Nat × σ
  | count, [], s => (count, s)
  | count, f :: fs, s =>
    let isMatch := f.kind == .matched
    if isMatch && !selection.allows (count + 1) then (count, s)
    else
      let count := if isMatch then count + 1 else count
      let wanted := ignoreKinds || selection.allowsKind f.kind
      let (s, more) := visit.offer wanted f (s, true)
      if more then visitFragments ignoreKinds selection visit count fs s else (count, s)

def iterate {σ : Type} (script : Script) (selection : Selection) (visit : Visitor σ) (s : σ) :
    Nat × σ :=
  visitFragments script.ignoreKinds selection visit 0 script.fragments s

def replaceMatches (target template : Text) : Text := target ++ '|' :: template

end Script

namespace Matcher

mutual

/-- The range of the first match. An inversion looks for the first gap with at most two searches
of its source. -/
def locate : Matcher → Text → Option CharRange
  | regex r, t => r.locate t
  | nothing, _ => none
  | whole, t => some (.whole t)
  | conjunction ms, t => ((locateEach ms t).mapM id).bind CharRange.earliest
  | disjunction ms, t => CharRange.earliest ((locateEach ms t).filterMap id)
  | inversion m, t =>
    match locate m t with
    | none => some (.whole t)
    | some first =>
      if 0 < first.start then some (.ofBounds 0 first.start)
      else if first.stop = t.length then none
      else
        let rest := CharRange.ofBounds first.stop t.length
        match locate m (rest.slice t) with
        | some second => some (.ofBounds first.stop (first.stop + second.start))
        | none => some rest
  | scripted s, _ => s.locate

def locateEach : List Matcher → Text → List (Option CharRange)
  | [], _ => []
  | m :: ms, t => locate m t :: locateEach ms t

end

mutual

def hasMatches : Matcher → Text → Bool
  | disjunction ms, t => anyHasMatches ms t
  | m, t => (locate m t).isSome

def anyHasMatches : List Matcher → Text → Bool
  | [], _ => false
  | m :: ms, t => hasMatches m t || anyHasMatches ms t

end

/-- The template that inserts `t` as it is. Only regular expressions read templates. -/
def escapeTemplate : Matcher → Text → Text
  | regex _, t => Template.escape t
  | _, t => t

def supportsGroups : Matcher → Bool
  | regex _ => true
  | _ => false

def supportsTemplates : Matcher → Bool
  | regex _ => true
  | _ => false

end Matcher

end PatternAlgebra
