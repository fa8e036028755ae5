import PatternAlgebra.Highlight.Paint
import PatternAlgebra.Text.Number

/-!
# Styles

Painted lines as text for a terminal. A style is a colour from the terminal's palette and an
emphasis; what is styled ends with a reset.
-/
namespace PatternAlgebra

/-- How text looks. -/
structure Style where
  colour : Option Nat := none
  emphasis : Option Nat := none
  deriving DecidableEq, Repr

/-- The styles of matches and of groups. -/
structure Highlighter where
  matched : Style
  group : Style
  deriving DecidableEq, Repr

namespace Style

/-- The escape sequence with these parameters. -/
def sequence (parameters : Text) : Text := '\x1b' :: '[' :: parameters ++ ['m']

def apply (s : Style) (t : Text) : Text :=
  let colour := s.colour.elim [] fun n => sequence ("38;5;".toList ++ Text.decimal n)
  let emphasis := s.emphasis.elim [] fun n => sequence (Text.decimal n)
  let styled := colour ++ emphasis ++ t
  if s.colour.isNone && s.emphasis.isNone then styled else styled ++ sequence ['0']

end Style

namespace Highlighter

/-- Matches are red and bold, groups are yellow and underlined. -/
def standard : Highlighter := ⟨⟨some 9, some 1⟩, ⟨some 11, some 4⟩⟩

/-- Leaves lines as they are. -/
def plain : Highlighter := ⟨{}, {}⟩

def style (h : Highlighter) : Paint → Style
  | .plain => {}
  | .matched => h.matched
  | .group => h.group

/-- A line with its matches styled. -/
def render (h : Highlighter) (line : Text) (fragments : List (Fragment CharRange)) : Text :=
  (Paint.spans line fragments).flatMap fun (paint, t) => (h.style paint).apply t

end Highlighter

end PatternAlgebra
