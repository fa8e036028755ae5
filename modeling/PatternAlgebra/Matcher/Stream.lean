import PatternAlgebra.Matcher.Basic
import PatternAlgebra.Matcher.Union

/-!
# Streams and replacement

`iterate` shows the fragments of a target to a visitor and counts the matches; `replaceMatches`
rewrites a target. Conjunctions and disjunctions show the union of their children's matches, and
an inversion shows its source's stream with the roles of matched and unmatched swapped.
-/
namespace PatternAlgebra.Matcher

/-- The state of an inversion's visitor while the source is shown to it. -/
structure Relay (σ : Type) where
  state : σ
  count : Nat := 0
  /-- Whether the source has shown anything. -/
  reported : Bool := false

/-- Shows a fragment of the source with its role swapped. -/
def relay {σ : Type} (selection : Selection) (visit : Visitor σ) : Visitor (Relay σ) :=
  fun fragment r =>
    match fragment with
    | .matched range =>
      let (s, more) :=
        visit.offer (selection.allowsKind .unmatched) (.unmatched range) (r.state, true)
      (⟨s, r.count, true⟩, more && selection.allows (r.count + 1))
    | .unmatched range =>
      let (s, more) := visit.offer (selection.allowsKind .matched) (.matched range) (r.state, true)
      (⟨s, r.count + 1, true⟩, more && selection.allows (r.count + 2))
    | .group _ _ => (⟨r.state, r.count, true⟩, selection.allows (r.count + 1))

/-- Counts what the source has shown. A source that shows nothing leaves the whole target as one
match. -/
def endRelay {σ : Type} (selection : Selection) (visit : Visitor σ) (target : Text)
    (r : Relay σ) : Nat × σ :=
  if r.reported then (r.count, r.state)
  else
    (1, (visit.offer (selection.allowsKind .matched) (.matched (.whole target))
      (r.state, true)).1)

mutual

/-- Shows the fragments that the selection asks for, in order, and counts the matches. -/
def iterate : Matcher → {σ : Type} → Text → Selection → Visitor σ → σ → Nat × σ
  | regex r, _, target, selection, visit, s => r.iterate target selection visit s
  | nothing, _, target, selection, visit, s => Union.visitUnmatched selection visit target s
  | whole, _, target, selection, visit, s =>
    if selection.allows 1 && selection.allowsKind .matched then
      (1, (visit (.matched (.whole target)) s).1)
    else (0, s)
  | conjunction ms, _, target, selection, visit, s =>
    if !hasMatches (conjunction ms) target then Union.visitUnmatched selection visit target s
    else if !Union.isVisible selection then (0, s)
    else
      let kept := keepMatches ms target (Union.collecting selection) []
      Union.visitRanges selection visit target.length 0 0 (CharRange.sort kept) s
  | disjunction ms, _, target, selection, visit, s =>
    if !hasMatches (disjunction ms) target then Union.visitUnmatched selection visit target s
    else if !Union.isVisible selection then (0, s)
    else
      let kept := keepMatches ms target (Union.collecting selection) []
      Union.visitRanges selection visit target.length 0 0 (CharRange.sort kept) s
  | inversion m, _, target, selection, visit, s =>
    if selection.allows 1 then
      let (_, r) := iterate m target .shallow (relay selection visit) { state := s }
      endRelay selection visit target r
    else (0, s)
  | scripted script, _, _, selection, visit, s => script.iterate selection visit s

/-- Adds the matches of each matcher in turn to the ranges that are kept. -/
def keepMatches : List Matcher → Text → Selection → List CharRange → List CharRange
  | [], _, _, kept => kept
  | m :: ms, target, selection, kept =>
    keepMatches ms target selection (iterate m target selection Union.keeper kept).2

end

/-- The target as an inversion rewrites it: what its source matches stays, and what it does not
match is replaced. The parts come last first; there are none when the source shows nothing. -/
def rewriter (target template : Text) : Visitor (Option (List Text)) := fun fragment parts =>
  let parts := parts.getD []
  match fragment with
  | .matched range => (some (range.slice target :: parts), true)
  | .unmatched _ => (some (template :: parts), true)
  | .group _ _ => (some parts, true)

mutual

/-- The target with each match replaced by the template. Combinations pass the template on
literally. -/
def replaceMatches : Matcher → (target template : Text) → Text
  | regex r, target, template => r.replaceMatches target template
  | nothing, target, _ => target
  | whole, _, template => template
  | conjunction ms, target, template =>
    if hasMatches (conjunction ms) target then replaceEach ms target template else target
  | disjunction ms, target, template => replaceEach ms target template
  | inversion m, target, template =>
    match (iterate m target .shallow (rewriter target template) none).2 with
    | some parts => parts.reverse.flatten
    | none => template
  | scripted _, target, template => Script.replaceMatches target template

def replaceEach : List Matcher → (target template : Text) → Text
  | [], target, _ => target
  | m :: ms, target, template =>
    replaceEach ms (replaceMatches m target (m.escapeTemplate template)) template

end

end PatternAlgebra.Matcher
