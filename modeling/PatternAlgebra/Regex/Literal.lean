import PatternAlgebra.Regex.Basic

/-!
# Literal text in grammars

`escapePattern` protects every character that means something in a grammar. It is itself a
replacement by a regular expression.
-/
namespace PatternAlgebra

def isSpecialChar (c : Char) : Bool := "\\|^$()\x7b\x7d*+?[]-.".toList.contains c

/-- One backslash before each special character. -/
def escapeEach (t : Text) : Text := t.flatMap fun c => if isSpecialChar c then ['\\', c] else [c]

/-- The special characters as a grammar. -/
def specialCharsGrammar : Text := "[\\\\|^$()\x7b\x7d*+?\\[\\]\\-.]".toList

def specialChars : Option Regex := Regex.compile? specialCharsGrammar (.ofCase true)

/-- The grammar that matches `t` and nothing else. -/
def escapePattern (t : Text) : Text :=
  match specialChars with
  | some r => r.replaceMatches t "\\\\$0".toList
  | none => escapeEach t

end PatternAlgebra
