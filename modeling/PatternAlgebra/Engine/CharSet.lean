import PatternAlgebra.Engine.Property
import PatternAlgebra.Text.LetterCase
import PatternAlgebra.Text.Number

/-!
# Sets of characters

What one step of a pattern accepts: single characters, ranges, named classes and properties, and
the sets built from them. `caseless` and `folded` are the forms that ignore case.
-/
namespace PatternAlgebra.Engine

/-- The classes with an ASCII name of their own, as in `[:alpha:]`. -/
inductive AsciiClass where
  | alnum | alpha | ascii | blank | cntrl | digit | graph | lower | print | punct | space
  | upper | word | xdigit
  deriving DecidableEq, Repr

namespace AsciiClass

def named : List (String × AsciiClass) :=
  [("alnum", alnum), ("alpha", alpha), ("ascii", ascii), ("blank", blank), ("cntrl", cntrl),
   ("digit", digit), ("graph", graph), ("lower", lower), ("print", print), ("punct", punct),
   ("space", space), ("upper", upper), ("word", word), ("xdigit", xdigit)]

def ofName? (name : Text) : Option AsciiClass :=
  (named.find? (·.1.toList == name)).map (·.2)

def contains (k : AsciiClass) (c : Char) : Bool :=
  let within (lo hi : Char) : Bool := lo ≤ c && c ≤ hi
  match k with
  | alnum => c.isAlphanum
  | alpha => c.isAlpha
  | ascii => c.toNat < 128
  | blank => c == ' ' || c == '\t'
  | cntrl => c.toNat < 32 || c.toNat == 127
  | digit => c.isDigit
  | graph => within '!' '~'
  | lower => within 'a' 'z'
  | print => within ' ' '~'
  | punct => within '!' '/' || within ':' '@' || within '[' '\x60' || within '\x7b' '~'
  | space => within '\t' '\r' || c == ' '
  | upper => within 'A' 'Z'
  | word => c.isAlphanum || c == '_'
  | xdigit => Text.isHexDigit c

end AsciiClass

inductive CharSet where
  | single (c : Char)
  /-- The characters that differ from `c` at most in case. -/
  | caseless (c : Char)
  | range (lo hi : Char)
  | anything
  | word
  | digit
  | space
  | hexDigit
  | ascii (k : AsciiClass)
  | property (p : Property)
  | nothing
  | union (s t : CharSet)
  | inter (s t : CharSet)
  | diff (s t : CharSet)
  | symmDiff (s t : CharSet)
  | complement (s : CharSet)
  /-- The characters that differ at most in case from one of `s`. -/
  | folded (s : CharSet)
  deriving DecidableEq, Repr

namespace CharSet

def contains : CharSet → Char → Bool
  | single d, c => c == d
  | caseless d, c => caseFold c == caseFold d
  | range lo hi, c => lo ≤ c && c ≤ hi
  | anything, _ => true
  | word, c => isWordChar c
  | digit, c => isDigitChar c
  | space, c => isSpaceChar c
  | hexDigit, c => Text.isHexDigit c
  | ascii k, c => k.contains c
  | property p, c => p.contains c
  | nothing, _ => false
  | union s t, c => s.contains c || t.contains c
  | inter s t, c => s.contains c && t.contains c
  | diff s t, c => s.contains c && !t.contains c
  | symmDiff s t, c => s.contains c != t.contains c
  | complement s, c => !s.contains c
  | folded s, c => (caseVariants c).any fun d => s.contains d

/-- About how many bytes an automaton takes that reads one member in UTF-8, forward or backward:
32 for a state, 8 for a transition and 4 for a branch. Forward the states for common ends are
shared, backward only those for common beginnings. -/
def bytes (backward : Bool) : CharSet → Nat
  | single c => 32 * c.utf8Size
  | caseless c => if c.toNat < 128 then 80 else 400
  | range _ hi => if hi.toNat < 128 then 72 else if backward then 600 else 300
  | hexDigit | ascii _ => 96
  | anything => if backward then 964 else 416
  | space => if backward then 680 else 424
  | digit => if backward then 5000 else 2500
  | word => if backward then 40000 else 20000
  | property p => p.pieces * (if backward then 60 else 30) + 100
  | nothing => 32
  | union s t | inter s t | diff s t | symmDiff s t => s.bytes backward + t.bytes backward
  | complement s => s.bytes backward + if backward then 968 else 392
  | folded s => s.bytes backward + 500

/-- The set as it is under a choice to ignore case. -/
def underCase (ignoreCase : Bool) (s : CharSet) : CharSet := if ignoreCase then folded s else s

/-- `c` alone, or with its other cases. -/
def ofChar (ignoreCase : Bool) (c : Char) : CharSet := if ignoreCase then caseless c else single c

end CharSet

end PatternAlgebra.Engine
