import PatternAlgebra.Text.CharRange

/-!
# Incremental conversion of byte offsets

A tracker remembers one converted offset, its anchor, and counts only the characters from there
to the next offset. Offsets mostly ascend; one before the anchor is counted from the beginning
and leaves the anchor where it is.
-/
namespace PatternAlgebra

structure OffsetTracker where
  text : Text
  byte : Nat
  char : Nat
  deriving DecidableEq, Repr

namespace OffsetTracker

def ofText (t : Text) : OffsetTracker := ⟨t, 0, 0⟩

/-- The character position of a byte offset; the anchor moves up to it. -/
def charAt (k : OffsetTracker) (byte : Nat) : Nat × OffsetTracker :=
  if byte < k.byte then (k.text.charsBefore byte, k)
  else
    let char := k.char + (k.text.dropBytes k.byte).charsBefore (byte - k.byte)
    (char, { k with byte, char })

/-- The characters of a byte span. The anchor ends at the span's start, so that spans nested in
this one are still counted from it. -/
def range (k : OffsetTracker) (span : ByteSpan) : CharRange × OffsetTracker :=
  let (start, k) := k.charAt span.start
  let stop := if span.stop < k.byte then k.text.charsBefore span.stop else (k.charAt span.stop).1
  (CharRange.ofBounds start stop, k)

end OffsetTracker

end PatternAlgebra
