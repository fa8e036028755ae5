import PatternAlgebra.Search.Literal

/-!
# Globs

In a glob `?` is any character, `*` any run of characters and `[..]` a set of characters;
everything else stands for itself. A regular expression cuts a glob into its tokens, and each
token is written in the grammar of the engine.
-/
namespace PatternAlgebra.Search

/-- What stands between the brackets of a set: escaped characters, and runs without a closing
bracket. -/
def bracketBody : Element :=
  .either [.sequence [.special .slash, .any], .repeated (.charNotIn [']']) (.oneOrMore none)]

/-- The tokens of a glob, each of which captures itself: group 0 is `?`, group 1 is `*` and
group 2 is a set. -/
def globElement : Element :=
  .either [
    .capture (.charIn ['?']),
    .capture (.charIn ['*']),
    .capture (.sequence [
      .charIn ['['], .repeated bracketBody (.oneOrMore none), .charIn [']']])]

def globTokenizer : Option Regex := Regex.compile? globElement.grammar (.ofCase true)

/-- The grammar of one fragment of a glob. -/
def globPart (glob : Text) : Fragment CharRange → Text
  | .group _ 0 => ['.']
  | .group _ 1 => ['.', '*']
  | .group range 2 => range.slice glob
  | .unmatched range => escapePattern (range.slice glob)
  | _ => []

/-- Writes the grammar of each fragment of a glob, and never stops. The parts come last first. -/
def globWriter (glob : Text) : Visitor (List Text) := fun fragment parts =>
  (globPart glob fragment :: parts, true)

/-- The grammar of a glob. A glob without tokens is literal text. -/
def globGrammar (glob : Text) : Option Text :=
  globTokenizer.map fun r =>
    let (tokens, parts) := r.iterate glob .everything (globWriter glob) []
    if tokens = 0 then escapePattern glob else parts.reverse.flatten

def glob (glob : Text) (matchCase : Bool) : Matcher :=
  match globGrammar glob with
  | some g => grammar g matchCase
  | none => .nothing

end PatternAlgebra.Search
