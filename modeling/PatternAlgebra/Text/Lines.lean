import PatternAlgebra.Text.Basic

/-!
# Lines

A line ends with a line feed, before which one carriage return is dropped; the last line may have
no end. The cut is the same for characters and for bytes, so that a byte sequence can be cut first
and each line decoded for itself.
-/
namespace PatternAlgebra

namespace Lines

/-- Drops the carriage return at the end of a line that is given last item first. -/
def dropReturn {α : Type} [DecidableEq α] (cr : α) : List α → List α
  | [] => []
  | a :: line => if a = cr then line else a :: line

/-- Cuts the rest of a sequence into lines; `line` holds the items of the current line, last
first. -/
def splitFrom {α : Type} [DecidableEq α] (lf cr : α) : (line : List α) → List α → List (List α)
  | [], [] => []
  | line, [] => [line.reverse]
  | line, a :: rest =>
    if a = lf then (dropReturn cr line).reverse :: splitFrom lf cr [] rest
    else splitFrom lf cr (a :: line) rest

def split {α : Type} [DecidableEq α] (lf cr : α) (items : List α) : List (List α) :=
  splitFrom lf cr [] items

end Lines

/-- The lines of a text. -/
def Text.lines (t : Text) : List Text := Lines.split '\n' '\r' t

/-- The text with this UTF-8 form, when there is one. -/
def Text.ofBytes? (bytes : List UInt8) : Option Text :=
  (String.fromUTF8? ⟨bytes.toArray⟩).map String.toList

/-- The lines of a byte sequence; a line that is not UTF-8 has no text. -/
def Text.linesOfBytes (bytes : List UInt8) : List (Option Text) :=
  (Lines.split 10 13 bytes).map Text.ofBytes?

end PatternAlgebra
