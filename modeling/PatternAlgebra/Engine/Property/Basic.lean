import PatternAlgebra.Text.CharClass
import PatternAlgebra.Text.CodeRun

/-!
# Properties of characters

A property holds of some characters: those of certain general categories, those in a table, and
those that other properties leave when they are united or taken from each other. The names of
properties and of their values are compared without regard to case, blanks, hyphens and underscores,
and to `is` in front.
-/
namespace PatternAlgebra.Engine

inductive Property where
  | any
  | whiteSpace
  | category (members : List Category)
  | codePoints (runs : List CodeRun)
  | either (p q : Property)
  | except (p q : Property)
  deriving DecidableEq, Repr

namespace Property

def contains : Property → Char → Bool
  | any, _ => true
  | whiteSpace, c => isSpaceChar c
  | category members, c => members.contains (Category.ofChar c)
  | codePoints runs, c => runs.any (·.contains c.toNat)
  | either p q, c => p.contains c || q.contains c
  | except p q, c => p.contains c && !q.contains c

/-- About how many runs of code points the characters of a property form. -/
def pieces : Property → Nat
  | any => 1
  | whiteSpace => 10
  | category members => members.length * 100
  | codePoints runs => runs.length
  | either p q | except p q => p.pieces + q.pieces

/-- The characters in the lines of a table. -/
def ofLines (lines : List String) : Property := codePoints (CodeRun.ofLines lines)

def anyOf (ps : List Property) : Property := ps.foldr either (codePoints [])

/-- Lower case without blanks, hyphens, underscores and `is` in front. What would leave `c` alone
keeps its `is`. -/
def normalizeName (name : Text) : Text :=
  let plain (t : Text) : Text :=
    (t.filter fun c => c.toNat < 128 && !(c == ' ' || c == '-' || c == '_')).map Char.toLower
  match name with
  | i :: s :: rest =>
    if i.toLower = 'i' ∧ s.toLower = 's' then
      if plain rest = ['c'] then "isc".toList else plain rest
    else plain name
  | name => plain name

/-- The entry of a table that has a normalized name. -/
def lookup? {α : Type} (entries : List (List String × α)) (name : Text) : Option α :=
  (entries.find? fun (names, _) => names.any fun n => n.toList == name).map (·.2)

end Property

end PatternAlgebra.Engine
