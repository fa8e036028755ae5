import PatternAlgebra.Engine.Plan.Run
import PatternAlgebra.Engine.Program
import PatternAlgebra.Text.CharRange

/-!
# Searching

The leftmost match of a program and the sequence of all its matches. Positions become byte
offsets on the way out. After an empty match the search goes on one character further, and an
empty match that touches the match before it does not count. A search that gives up has no match;
one that is broken off has no answer at all.
-/
namespace PatternAlgebra.Engine

/-- One match: the span of the whole match, and of each group that took part. -/
structure Match (σ : Type) where
  whole : σ
  groups : List (Option σ)
  deriving DecidableEq, Repr

namespace Match

def map {σ τ : Type} (f : σ → τ) (m : Match σ) : Match τ :=
  ⟨f m.whole, m.groups.map (Option.map f)⟩

/-- The span of a group, the whole match being group 0. -/
def group? {σ : Type} (m : Match σ) : Nat → Option σ
  | 0 => some m.whole
  | n + 1 => (m.groups[n]?).join

end Match

/-- What a search comes to. -/
inductive Answer (α : Type) where
  | found (a : α)
  | missing
  | broken
  deriving DecidableEq, Repr

namespace Answer

def toOption {α : Type} : Answer α → Option α
  | found a => some a
  | missing | broken => none

def isBroken {α : Type} : Answer α → Bool
  | broken => true
  | found _ | missing => false

end Answer

namespace Program

/-- The match that a regular expression has from `start` to a point. -/
def matchOfPoint (p : Program) (start : Nat) (point : Point) : Match Span where
  whole := ⟨start, point.pos⟩
  groups := (List.range' 1 p.lastGroup).map fun n => point.groups.lookup n

/-- The match that a run has found. Its start may have been moved, but not past its end. -/
def matchOfState (p : Program) (s : State) : Match Span where
  whole := ⟨min s.start s.pos, s.pos⟩
  groups := (List.range' 1 p.lastGroup).map s.group?

/-- The first match of a regular expression at one of `count` positions from `start` on. -/
def findRegular (p : Program) (ctx : Context) (e : Regular) : (count start : Nat) →
    Answer (Match Span)
  | 0, _ => .missing
  | count + 1, start =>
    match ctx.first? e start with
    | some point => .found (p.matchOfPoint start point)
    | none => p.findRegular ctx e count (start + 1)

/-- The first match of a plan at one of `count` positions from `start` on. To begin further right
is the last choice that a run has. -/
def findPlanned (p : Program) (ctx : Context) (plan : Plan) : (count start retries : Nat) →
    Answer (Match Span)
  | 0, _, _ => .missing
  | count + 1, start, retries =>
    match ctx.run plan (fun s _ _ => .matched s) { pos := start, start } 1 retries with
    | .matched s => .found (p.matchOfState s)
    | .failed _ retries =>
      if retries < Run.retryLimit then p.findPlanned ctx plan count (start + 1) (retries + 1)
      else .missing
    | .gaveUp => .missing
    | .broken => .broken

/-- The leftmost match from `start` on. -/
def search (p : Program) (text : Array Char) (start : Nat) : Answer (Match Span) :=
  let ctx : Context := { text, searchStart := start }
  match p.body with
  | .regular e => p.findRegular ctx e (text.size + 1 - start) start
  | .planned plan => p.findPlanned ctx plan (text.size + 1 - start) start 0

/-- The matches from `start` on, where `previous` is the end of the last one, and whether the
search for a further one is broken off. -/
def searchAll (p : Program) (text : Array Char) :
    (fuel start : Nat) → (previous : Option Nat) → List (Match Span) × Bool
  | 0, _, _ => ([], false)
  | fuel + 1, start, previous =>
    match p.search text start with
    | .missing => ([], false)
    | .broken => ([], true)
    | .found m =>
      let stop := m.whole.stop
      let next := if m.whole.start = stop then stop + 1 else stop
      if m.whole.start = stop ∧ previous = some stop then p.searchAll text fuel next previous
      else
        let (ms, broken) := p.searchAll text fuel next (some stop)
        (m :: ms, broken)

/-- All matches by positions, and whether the search for a further one is broken off. Each search
starts further on than the one before. -/
def searchText (p : Program) (t : Text) : List (Match Span) × Bool :=
  p.searchAll t.toArray (t.length + 2) 0 none

def toByteSpan (t : Text) (s : Span) : ByteSpan := ⟨t.bytesBefore s.start, t.bytesBefore s.stop⟩

def find? (p : Program) (t : Text) : Option ByteSpan :=
  (p.search t.toArray 0).toOption.map fun m => toByteSpan t m.whole

def events (p : Program) (t : Text) : List (Match ByteSpan) :=
  (p.searchText t).1.map (·.map (toByteSpan t))

/-- Whether the search for the first match is broken off. -/
def breaksAtFirst (p : Program) (t : Text) : Bool :=
  p.canBreak && (p.search t.toArray 0).isBroken

/-- Whether the search behind the last of the matches is broken off. -/
def breaksAtLast (p : Program) (t : Text) : Bool := p.canBreak && (p.searchText t).2

/-- Whether matches, the first of which comes behind the byte offset `last`, are not in order. -/
def areOutOfOrder : (last : Nat) → List (Match ByteSpan) → Bool
  | _, [] => false
  | last, m :: ms => m.whole.start < last || areOutOfOrder m.whole.stop ms

/-- Whether some match begins before the end of the one before it. -/
def stepsBack (p : Program) (t : Text) : Bool := p.canStepBack && areOutOfOrder 0 (p.events t)

end Program

end PatternAlgebra.Engine
