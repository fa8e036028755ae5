import PatternAlgebra.Element.Grammar
import PatternAlgebra.Matcher.Basic

/-!
# Common searches

Matchers for grammars, elements and literal text. A grammar that the engine rejects gives the
matcher that matches nothing.
-/
namespace PatternAlgebra.Search

def compiled (grammar : Text) (flags : EngineFlags) : Matcher :=
  match Regex.compile? grammar flags with
  | some r => .regex r
  | none => .nothing

def grammar (grammar : Text) (matchCase : Bool) : Matcher := compiled grammar (.ofCase matchCase)

def element (e : Element) (options : MatchOptions) : Matcher :=
  compiled e.grammar (.ofOptions options)

/-- `t` as a whole word. -/
def word (t : Text) (matchCase : Bool) : Matcher :=
  grammar ("\\b".toList ++ escapePattern t ++ "\\b".toList) matchCase

/-- `t` at the start of the target, after optional white space. -/
def startingWith (t : Text) (matchCase : Bool) : Matcher :=
  grammar ("^\\s*".toList ++ escapePattern t) matchCase

/-- `t` at the end of the target, before optional white space. -/
def endingWith (t : Text) (matchCase : Bool) : Matcher :=
  grammar (escapePattern t ++ "\\s*$".toList) matchCase

/-- `t` anywhere. -/
def literal (t : Text) (matchCase : Bool) : Matcher := grammar (escapePattern t) matchCase

/-- The grammar of a subsequence: every character of `t` in a group of its own, with anything
between two of them. -/
def subsequenceGrammar : Text → Text
  | [] => []
  | [c] => '(' :: escapePattern [c] ++ [')']
  | c :: t => '(' :: escapePattern [c] ++ ").*".toList ++ subsequenceGrammar t

/-- The characters of `t` in order, with anything between them and without regard to case. -/
def subsequence (t : Text) : Matcher :=
  if t.isEmpty then .nothing else grammar (subsequenceGrammar t) false

end PatternAlgebra.Search
