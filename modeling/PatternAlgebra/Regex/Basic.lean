import PatternAlgebra.Engine.Expansion
import PatternAlgebra.Engine.Flags
import PatternAlgebra.Engine.Search
import PatternAlgebra.Regex.Template
import PatternAlgebra.Stream.Selection
import PatternAlgebra.Stream.Visitor
import PatternAlgebra.Text.OffsetTracker
import PatternAlgebra.Text.Quoted

/-!
# Regular expressions

A compiled grammar and the three things it can do with a target: locate its first match, show its
fragments to a visitor, and replace its matches. The engine reports byte spans; fragments have
ranges of characters.
-/
namespace PatternAlgebra

structure Regex where
  /-- The grammar without the directive for the flags. -/
  grammar : Text
  flags : EngineFlags
  program : Engine.Program
  deriving DecidableEq, Repr

inductive CompileError where
  | emptyGrammar
  | rejected (grammar : Text)
  deriving DecidableEq, Repr

/-- What an error says, up to the engine's own words. -/
def CompileError.message : CompileError → Text
  | emptyGrammar => "empty regex grammar".toList
  | rejected grammar => "regex engine rejected ".toList ++ grammar.quote ++ ": ".toList

namespace Regex

def compile (grammar : Text) (flags : EngineFlags) : Except CompileError Regex :=
  if grammar.isEmpty then .error .emptyGrammar
  else
    match Engine.Program.ofGrammar? (flags.directive ++ grammar) with
    | some program => .ok { grammar, flags, program }
    | none => .error (.rejected grammar)

def compile? (grammar : Text) (flags : EngineFlags) : Option Regex :=
  (compile grammar flags).toOption

/-- How many groups there are, the whole match counted. -/
def captureCount (r : Regex) : Nat := r.program.groups + 1

def locate (r : Regex) (target : Text) : Option CharRange :=
  (r.program.find? target).bind (CharRange.ofBytes? target)

/-- Where a walk through the matches stands: the end of the last match, and the tracker
that converts offsets. -/
structure Walk where
  marker : Nat
  offsets : OffsetTracker
  deriving DecidableEq, Repr

/-- Shows the groups that took part in a match, the first of them having the number `id`. -/
def visitGroups {σ : Type} (visit : Visitor σ) :
    (id : Nat) → List (Option ByteSpan) → OffsetTracker → σ × Bool → OffsetTracker × (σ × Bool)
  | _, [], offsets, progress => (offsets, progress)
  | id, none :: groups, offsets, progress => visitGroups visit (id + 1) groups offsets progress
  | id, some span :: groups, offsets, progress =>
    let (range, offsets) := offsets.range span
    visitGroups visit (id + 1) groups offsets (visit.offer true (.group range id) progress)

/-- Shows what one match contributes: the gap before it, the match, and its groups. -/
def visitMatch {σ : Type} (selection : Selection) (visit : Visitor σ) (walk : Walk)
    (m : Engine.Match ByteSpan) (s : σ) : Walk × (σ × Bool) :=
  let (range, offsets) := walk.offsets.range m.whole
  let gap := selection.allowsKind .unmatched && walk.marker < range.start
  let progress := visit.offer gap (.unmatched (.ofBounds walk.marker range.start)) (s, true)
  let progress := visit.offer (selection.allowsKind .matched) (.matched range) progress
  let (offsets, progress) :=
    if selection.allowsKind .group then visitGroups visit 0 m.groups offsets progress
    else (offsets, progress)
  (⟨range.stop, offsets⟩, progress)

/-- Shows the rest of the matches, of which `count` came before, and then the text after the last
one. A walk that is stopped shows no trailing text. -/
def visitMatches {σ : Type} (selection : Selection) (visit : Visitor σ) (target : Text) :
    (count : Nat) → Walk → List (Engine.Match ByteSpan) → σ → Nat × σ
  | count, walk, [], s =>
    if 0 < count && selection.allowsKind .unmatched then
      let (stop, _) := walk.offsets.charAt target.byteLength
      let trailing := decide (walk.marker < stop)
      (count, (visit.offer trailing (.unmatched (.ofBounds walk.marker stop)) (s, true)).1)
    else (count, s)
  | count, walk, m :: ms, s =>
    let (walk, (s, more)) := visitMatch selection visit walk m s
    if more && selection.allows (count + 2) then
      visitMatches selection visit target (count + 1) walk ms s
    else (count + 1, s)

/-- Shows the fragments that the selection asks for, in order, and counts the matches. -/
def iterate {σ : Type} (r : Regex) (target : Text) (selection : Selection) (visit : Visitor σ)
    (s : σ) : Nat × σ :=
  if selection.allows 1 then
    visitMatches selection visit target 0 ⟨0, .ofText target⟩ (r.program.events target) s
  else (0, s)

/-- Whether the walk through the rest of the matches, of which `count` came before, goes on to search
behind the last of them. -/
def walksToEnd {σ : Type} (selection : Selection) (visit : Visitor σ) :
    (count : Nat) → Walk → List (Engine.Match ByteSpan) → σ → Bool
  | _, _, [], _ => true
  | count, walk, m :: ms, s =>
    let (walk, (s, more)) := visitMatch selection visit walk m s
    more && selection.allows (count + 2) && walksToEnd selection visit (count + 1) walk ms s

/-- Whether the search for the first match is broken off. -/
def locateBreaks (r : Regex) (target : Text) : Bool := r.program.breaksAtFirst target

/-- Whether a search that the fragments need is broken off. -/
def iterateBreaks {σ : Type} (r : Regex) (target : Text) (selection : Selection)
    (visit : Visitor σ) (s : σ) : Bool :=
  selection.allows 1 && r.program.breaksAtLast target &&
    walksToEnd selection visit 0 ⟨0, .ofText target⟩ (r.program.events target) s

/-- Whether a replacement is broken off, because of a search or because a match begins where the
one before it has been replaced. -/
def replaceBreaks (r : Regex) (target : Text) : Bool :=
  r.program.breaksAtLast target || r.program.stepsBack target

/-- Whether the expression can be broken off by some target. -/
def canBreak (r : Regex) : Bool := r.program.canBreak || r.program.canStepBack

/-- The span of the group that a template means by a name: that of the group which has the name, if
it took part in the match, or else that of the group with this number. -/
def groupSpan? (r : Regex) (m : Engine.Match ByteSpan) (name : Text) : Option ByteSpan :=
  (r.program.names.lookup name).bind m.group? <|>
    if name.all Char.isDigit then m.group? (Text.decimalValue name) else none

/-- The text of a group in a match, empty when it took no part. -/
def groupText (r : Regex) (target : Text) (m : Engine.Match ByteSpan) (name : Text) : Text :=
  ((r.groupSpan? m name).map fun span => target.sliceBytes span.start span.stop).getD []

/-- The target from byte `last` on, with each match replaced. The template is in the engine's
notation. -/
def replaceFrom (r : Regex) (target template : Text) :
    (last : Nat) → List (Engine.Match ByteSpan) → Text
  | last, [] => target.dropBytes last
  | last, m :: ms =>
    target.sliceBytes last m.whole.start ++ Engine.expand (r.groupText target m) template ++
      r.replaceFrom target template m.whole.stop ms

/-- The target with each match replaced by what the template makes of it. -/
def replaceMatches (r : Regex) (target template : Text) : Text :=
  r.replaceFrom target (Template.encode (Template.parse r.captureCount template)) 0
    (r.program.events target)

end Regex

end PatternAlgebra
