import PatternAlgebra.Text.Basic

/-!
# Match options and engine flags

Options are what a client chooses; flags are what the engine is told. Without options matching
ignores case, and the option to match case clears the flag.
-/
namespace PatternAlgebra

structure MatchOptions where
  /-- Letters match in their own case only. -/
  matchCase : Bool := false
  /-- `^` and `$` hold at every line boundary. -/
  anchorsMatchLines : Bool := false
  /-- `.` takes line ends too. -/
  anyIncludesLineChars : Bool := false
  /-- Word boundaries follow the rules for all scripts. -/
  unicodeWordBoundaries : Bool := false
  deriving DecidableEq, Repr

namespace MatchOptions

/-- The options set in either. -/
def union (o p : MatchOptions) : MatchOptions where
  matchCase := o.matchCase || p.matchCase
  anchorsMatchLines := o.anchorsMatchLines || p.anchorsMatchLines
  anyIncludesLineChars := o.anyIncludesLineChars || p.anyIncludesLineChars
  unicodeWordBoundaries := o.unicodeWordBoundaries || p.unicodeWordBoundaries

def isEmpty (o : MatchOptions) : Bool :=
  !(o.matchCase || o.anchorsMatchLines || o.anyIncludesLineChars || o.unicodeWordBoundaries)

end MatchOptions

structure EngineFlags where
  ignoreCase : Bool := false
  multiLine : Bool := false
  dotMatchesNewLine : Bool := false
  /-- Recorded for clients only: the engine's word boundaries always know all scripts. -/
  unicodeWord : Bool := false
  deriving DecidableEq, Repr

namespace EngineFlags

def ofCase (matchCase : Bool) : EngineFlags := { ignoreCase := !matchCase }

def ofOptions (o : MatchOptions) : EngineFlags where
  ignoreCase := !o.matchCase
  multiLine := o.anchorsMatchLines
  dotMatchesNewLine := o.anyIncludesLineChars
  unicodeWord := o.unicodeWordBoundaries

/-- The letters of the flags that have one. -/
def letters (f : EngineFlags) : Text :=
  (if f.ignoreCase then ['i'] else []) ++ (if f.multiLine then ['m'] else []) ++
    (if f.dotMatchesNewLine then ['s'] else [])

/-- The directive that sets these flags for a whole grammar, empty when there is none to set. -/
def directive (f : EngineFlags) : Text :=
  if f.letters.isEmpty then [] else ['(', '?'] ++ f.letters ++ [')']

end EngineFlags

end PatternAlgebra
