import PatternAlgebra.Stream.Selection
import PatternAlgebra.Stream.Visitor

/-!
# Unions of matches

The matches of several matchers become one stream: a range is kept unless it conflicts with one
that was kept before it, and the ranges that are kept are shown in ascending order with the gaps
between them.
-/
namespace PatternAlgebra.Union

/-- Whether two ranges cannot be matches of one stream: they are equal, they share a position, or
one starts inside the other. An empty range at an edge of another is no conflict. -/
def conflicts (kept range : CharRange) : Bool :=
  kept == range || kept.overlaps range ||
    (kept.start < range.start && range.start < kept.stop) ||
    (range.start < kept.start && kept.start < range.stop)

/-- Keeps a range unless it conflicts with one that is kept. -/
def keep (kept : List CharRange) (range : CharRange) : List CharRange :=
  if kept.any (conflicts · range) then kept else kept ++ [range]

/-- Keeps the matches of a stream and never stops. -/
def keeper : Visitor (List CharRange) := fun fragment kept =>
  match fragment with
  | .matched range => (keep kept range, true)
  | _ => (kept, true)

/-- What is asked of the matchers: all of their matches and nothing else. -/
def collecting (selection : Selection) : Selection :=
  (selection.withKinds .matchedOnly).withLimit none

/-- Whether a selection leaves anything to show. -/
def isVisible (selection : Selection) : Bool :=
  (selection.allowsKind .unmatched || selection.allowsKind .matched) && selection.allows 1

/-- Shows the rest of the ranges, of which `count` came before, and the gaps after `previous`. -/
def visitRanges {σ : Type} (selection : Selection) (visit : Visitor σ) (stop : Nat) :
    (count previous : Nat) → List CharRange → σ → Nat × σ
  | count, previous, [], s =>
    let trailing := selection.allowsKind .unmatched && previous < stop
    (count, (visit.offer trailing (.unmatched (.ofBounds previous stop)) (s, true)).1)
  | count, previous, range :: ranges, s =>
    let gap := selection.allowsKind .unmatched && previous < range.start
    let (s, more) := visit.offer gap (.unmatched (.ofBounds previous range.start)) (s, true)
    if !more then (count, s)
    else
      let (s, more) := visit.offer (selection.allowsKind .matched) (.matched range) (s, true)
      if more && selection.allows (count + 2) then
        visitRanges selection visit stop (count + 1) range.stop ranges s
      else (count + 1, s)

/-- Shows the whole target as one unmatched region, for a combination without matches. -/
def visitUnmatched {σ : Type} (selection : Selection) (visit : Visitor σ) (target : Text) (s : σ) :
    Nat × σ :=
  (0, (visit.offer (selection.allowsKind .unmatched) (.unmatched (.whole target)) (s, true)).1)

end PatternAlgebra.Union
