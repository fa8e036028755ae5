import PatternAlgebra.Text.Basic

/-!
# Ranges of characters

A half-open interval of character positions whose end never precedes its start. Ranges are
ordered by start, then by end. Conversions to and from byte spans read the second end relative
to the first, on what is left of the text after it.
-/
namespace PatternAlgebra

structure CharRange where
  start : Nat
  stop : Nat
  start_le_stop : start ≤ stop
  deriving DecidableEq, Repr

structure ByteSpan where
  start : Nat
  stop : Nat
  deriving DecidableEq, Repr

namespace CharRange

/-- The range from `start` to `stop`, with `stop` raised to `start` when it is smaller. -/
def ofBounds (start stop : Nat) : CharRange := ⟨start, max start stop, Nat.le_max_left ..⟩

def whole (t : Text) : CharRange := ⟨0, t.length, Nat.zero_le _⟩

def length (r : CharRange) : Nat := r.stop - r.start

def isEmpty (r : CharRange) : Bool := r.start == r.stop

def shift (r : CharRange) (offset : Nat) : CharRange :=
  ⟨r.start + offset, r.stop + offset, Nat.add_le_add_right r.start_le_stop _⟩

/-- Whether two ranges share a position. An empty range shares none. -/
def overlaps (r q : CharRange) : Bool :=
  !(r.isEmpty || q.isEmpty || q.stop ≤ r.start || r.stop ≤ q.start)

def compare (r q : CharRange) : Ordering :=
  (Ord.compare r.start q.start).then (Ord.compare r.stop q.stop)

/-- The order by start, then by end. -/
def le (r q : CharRange) : Bool := r.start < q.start || (r.start == q.start && r.stop ≤ q.stop)

def sort (ranges : List CharRange) : List CharRange := ranges.mergeSort le

/-- The characters of a byte span. An end inside a character rounds down and an end past the
text is clamped; there is no answer when the start is not between two characters. -/
def ofBytes? (t : Text) (span : ByteSpan) : Option CharRange :=
  (t.dropBytes? span.start).map fun rest =>
    let start := t.charsBefore span.start
    ⟨start, start + rest.charsBefore (span.stop - span.start), Nat.le_add_right ..⟩

/-- The byte span of a range of characters, clamped to the text. -/
def toBytes (r : CharRange) (t : Text) : ByteSpan :=
  let start := t.bytesBefore r.start
  ⟨start, start + (t.dropBytes start).bytesBefore r.length⟩

/-- The part of `t` that the range covers. -/
def slice (r : CharRange) (t : Text) : Text :=
  let span := r.toBytes t
  t.sliceBytes span.start span.stop

end CharRange

end PatternAlgebra
