import PatternAlgebra.Matcher.Stream

/-!
# Breakage

Some regular expressions break a search off: a group that is referred to from its own inside may
hold no piece of the text, and a match may begin in front of the place up to which a target has
been rewritten. What a client has asked for has no answer then. `Matcher.breaksOff` says for which
requests this is so, by going through the searches that a request needs, in their order.
-/
namespace PatternAlgebra

/-- What a client asks of a matcher on a target. -/
inductive Request where
  | locate
  | hasMatches
  /-- The fragments of a selection, up to the one with the number `stop`. -/
  | iterate (selection : Selection) (stop : Option Nat)
  /-- The matches of a selection. -/
  | matches (selection : Selection)
  /-- The unmatched segments that a selection leaves. -/
  | split (selection : Selection)
  | replace (template : Text)
  deriving DecidableEq, Repr

namespace Matcher

mutual

/-- Whether some expression in the matcher can be broken off. -/
def canBreak : Matcher → Bool
  | regex r => r.canBreak
  | nothing | whole | scripted _ => false
  | conjunction ms | disjunction ms => anyCanBreak ms
  | inversion m => canBreak m

def anyCanBreak : List Matcher → Bool
  | [] => false
  | m :: ms => canBreak m || anyCanBreak ms

end

mutual

def locateBreaks : Matcher → Text → Bool
  | regex r, t => r.locateBreaks t
  | nothing, _ | whole, _ | scripted _, _ => false
  | conjunction ms, t => locateAllBreaks ms t
  | disjunction ms, t => locateAnyBreaks ms t
  | inversion m, t =>
    locateBreaks m t ||
      match locate m t with
      | some first =>
        first.start = 0 && first.stop ≠ t.length &&
          locateBreaks m ((CharRange.ofBounds first.stop t.length).slice t)
      | none => false

/-- In a conjunction nothing is looked for behind a matcher that finds nothing. -/
def locateAllBreaks : List Matcher → Text → Bool
  | [], _ => false
  | m :: ms, t => locateBreaks m t || ((locate m t).isSome && locateAllBreaks ms t)

def locateAnyBreaks : List Matcher → Text → Bool
  | [], _ => false
  | m :: ms, t => locateBreaks m t || locateAnyBreaks ms t

end

mutual

def hasBreaks : Matcher → Text → Bool
  | disjunction ms, t => anyHasBreaks ms t
  | m, t => locateBreaks m t

/-- In a disjunction nothing is looked for behind a matcher that finds something. -/
def anyHasBreaks : List Matcher → Text → Bool
  | [], _ => false
  | m :: ms, t => hasBreaks m t || (!hasMatches m t && anyHasBreaks ms t)

end

mutual

def iterateBreaks : Matcher → {σ : Type} → Text → Selection → Visitor σ → σ → Bool
  | regex r, _, target, selection, visit, s => r.iterateBreaks target selection visit s
  | nothing, _, _, _, _, _ | whole, _, _, _, _, _ | scripted _, _, _, _, _, _ => false
  | conjunction ms, _, target, selection, _, _ =>
    hasBreaks (conjunction ms) target ||
      (hasMatches (conjunction ms) target && Union.isVisible selection &&
        keepBreaks ms target (Union.collecting selection))
  | disjunction ms, _, target, selection, _, _ =>
    hasBreaks (disjunction ms) target ||
      (hasMatches (disjunction ms) target && Union.isVisible selection &&
        keepBreaks ms target (Union.collecting selection))
  | inversion m, _, target, selection, visit, s =>
    selection.allows 1 && iterateBreaks m target .shallow (relay selection visit) { state := s }

def keepBreaks : List Matcher → Text → Selection → Bool
  | [], _, _ => false
  | m :: ms, target, selection =>
    iterateBreaks m target selection Union.keeper [] || keepBreaks ms target selection

end

mutual

def replaceBreaks : Matcher → (target template : Text) → Bool
  | regex r, target, _ => r.replaceBreaks target
  | nothing, _, _ | whole, _, _ | scripted _, _, _ => false
  | conjunction ms, target, template =>
    hasBreaks (conjunction ms) target ||
      (hasMatches (conjunction ms) target && replaceEachBreaks ms target template)
  | disjunction ms, target, template => replaceEachBreaks ms target template
  | inversion m, target, template =>
    iterateBreaks m target .shallow (rewriter target template) none

def replaceEachBreaks : List Matcher → (target template : Text) → Bool
  | [], _, _ => false
  | m :: ms, target, template =>
    let own := m.escapeTemplate template
    replaceBreaks m target own || replaceEachBreaks ms (replaceMatches m target own) template

end

/-- Whether a request is broken off. -/
def breaksOff (m : Matcher) (target : Text) (request : Request) : Bool :=
  m.canBreak &&
    match request with
    | .locate => m.locateBreaks target
    | .hasMatches => m.hasBreaks target
    | .iterate selection stop => m.iterateBreaks target selection (Visitor.collectUpTo stop) []
    | .matches selection =>
      m.iterateBreaks target (selection.withoutKind .unmatched) Visitor.collect []
    | .split selection => m.iterateBreaks target (selection.withKind .unmatched) Visitor.collect []
    | .replace template => m.replaceBreaks target template

end Matcher

end PatternAlgebra
