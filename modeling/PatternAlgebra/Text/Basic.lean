/-!
# Texts

A text is the list of its characters and positions count characters. Byte offsets are those of
the UTF-8 form; `charsBefore` and `bytesBefore` convert between the two and `sliceBytes` cuts
a text at byte offsets.
-/
namespace PatternAlgebra

abbrev Text := List Char

namespace Text

/-- The size of the UTF-8 form. -/
def byteLength : Text → Nat
  | [] => 0
  | c :: t => c.utf8Size + byteLength t

/-- How many characters end at or before byte `b`. -/
def charsBefore : Text → Nat → Nat
  | [], _ => 0
  | c :: t, b => if c.utf8Size ≤ b then charsBefore t (b - c.utf8Size) + 1 else 0

/-- The size of the first `n` characters, of all of them when there are fewer. -/
def bytesBefore (t : Text) (n : Nat) : Nat := byteLength (t.take n)

/-- What is left after byte `b`; nothing when `b` is past the end or inside a character. -/
def dropBytes? : Text → Nat → Option Text
  | t, 0 => some t
  | [], _ + 1 => none
  | c :: t, b + 1 => if c.utf8Size ≤ b + 1 then dropBytes? t (b + 1 - c.utf8Size) else none

/-- What is left after byte `b`; empty when `b` is past the end or inside a character. -/
def dropBytes (t : Text) (b : Nat) : Text := (dropBytes? t b).getD []

/-- The characters that end at or before byte `b`. -/
def takeBytes (t : Text) (b : Nat) : Text := t.take (charsBefore t b)

/-- The characters from byte `start` to byte `stop`. -/
def sliceBytes (t : Text) (start stop : Nat) : Text := takeBytes (dropBytes t start) (stop - start)

end Text

end PatternAlgebra
