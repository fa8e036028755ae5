import PatternAlgebra.Matcher.Basic

/-!
# Descriptions of matchers

The one-line text that describes the structure of a matcher.
-/
namespace PatternAlgebra

namespace Debug

/-- A name and its fields, as in `Name { field: value }`. -/
def record (name : String) (fields : List (String × Text)) : Text :=
  name.toList ++ " \x7b ".toList ++
    (", ".toList).intercalate (fields.map fun (field, value) =>
      field.toList ++ ": ".toList ++ value) ++ " \x7d".toList

def list (items : List Text) : Text := '[' :: (", ".toList).intercalate items ++ [']']

def bool (b : Bool) : Text := (if b then "true" else "false").toList

def flags (f : EngineFlags) : Text :=
  record "EngineFlags" [("case_insensitive", bool f.ignoreCase), ("multi_line", bool f.multiLine),
    ("dot_matches_new_line", bool f.dotMatchesNewLine), ("unicode_word", bool f.unicodeWord)]

def regex (r : Regex) : Text :=
  record "Regex" [("grammar", r.grammar.quote), ("flags", flags r.flags)]

def range (r : CharRange) : Text :=
  record "TextRange" [("start", Text.decimal r.start), ("end", Text.decimal r.stop)]

def fragment : Fragment CharRange → Text
  | .matched r => "Match(".toList ++ range r ++ [')']
  | .unmatched r => "Text(".toList ++ range r ++ [')']
  | .group r id => "SubMatch(".toList ++ range r ++ ", ".toList ++ Text.decimal id ++ [')']

def script (s : Script) : Text :=
  record "Scripted" [("fragments", list (s.fragments.map fragment)),
    ("ignore_kinds", bool s.ignoreKinds)]

end Debug

namespace Matcher

mutual

def debug : Matcher → Text
  | regex r => Debug.regex r
  | nothing => "EmptyPattern".toList
  | whole => "AllPattern".toList
  | conjunction ms => Debug.record "AndPattern" [("patterns", Debug.list (debugEach ms))]
  | disjunction ms => Debug.record "OrPattern" [("patterns", Debug.list (debugEach ms))]
  | inversion m => Debug.record "InversePattern" [("source", debug m)]
  | scripted s => Debug.script s

def debugEach : List Matcher → List Text
  | [] => []
  | m :: ms => debug m :: debugEach ms

end

end Matcher

end PatternAlgebra
