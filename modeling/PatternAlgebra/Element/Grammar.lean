import PatternAlgebra.Element.Basic
import PatternAlgebra.Regex.Literal

/-!
# Grammars of elements

An element writes itself in the engine's grammar. Where an operator follows, an element of weight
above one is put into a group, so that the operator applies to all of it.
-/
namespace PatternAlgebra

def Collect.mark : Collect → Text
  | possessive => ['+']
  | reluctant => ['?']

namespace Repeat

def braces (body : Text) : Text := '\x7b' :: body ++ ['\x7d']

/-- The quantifier without the mark for how it collects. -/
def core : Repeat → Text
  | optional _ => ['?']
  | oneOrMore _ => ['+']
  | zeroOrMore _ => ['*']
  | exactly n => braces (Text.decimal n)
  | atLeast n _ => braces (Text.decimal n ++ [','])
  | atMost m _ => braces (',' :: Text.decimal m)
  | between n m _ => braces (Text.decimal n ++ ',' :: Text.decimal m)

def collect : Repeat → Option Collect
  | optional c => c
  | oneOrMore c => c
  | zeroOrMore c => c
  | exactly _ => none
  | atLeast _ c => c
  | atMost _ c => c
  | between _ _ c => c

def grammar (times : Repeat) : Text := times.core ++ times.collect.elim [] Collect.mark

end Repeat

namespace SpecialChar

def braced (letter : Char) (body : Text) : Text := '\\' :: letter :: Repeat.braces body

def grammar : SpecialChar → Text
  | slash => ['\\', '\\']
  | bell => ['\\', 'a']
  | backspace => "\\u0008".toList
  | escape => ['\\', 'e']
  | formfeed => ['\\', 'f']
  | tab => ['\\', 't']
  | grapheme => ['\\', 'X']
  | control name => '\\' :: 'c' :: name
  | codePoint n => braced 'x' (Text.hex n)
  | named name => braced 'N' name
  | withProperty name => braced 'p' name
  | withoutProperty name => braced 'P' name

end SpecialChar

namespace MatchOptions

/-- The directives that turn the options on. Matching case turns folding off. -/
def setting (o : MatchOptions) : Text :=
  (if o.matchCase then "(?-i)".toList else []) ++
    (if o.anchorsMatchLines then "(?m)".toList else []) ++
    (if o.anyIncludesLineChars then "(?s)".toList else []) ++
    (if o.unicodeWordBoundaries then "(?w)".toList else [])

/-- The directives that turn the options off. -/
def resetting (o : MatchOptions) : Text :=
  (if o.matchCase then "(?i)".toList else []) ++
    (if o.anchorsMatchLines then "(?-m)".toList else []) ++
    (if o.anyIncludesLineChars then "(?-s)".toList else []) ++
    (if o.unicodeWordBoundaries then "(?-w)".toList else [])

end MatchOptions

namespace Element

mutual

/-- The weight decides whether an operator needs a group around its operand. -/
def weight : Element → Nat
  | setOptions _ => 0
  | resetOptions _ => 0
  | skip => 2
  | spaces => 2
  | words => 2
  | repeated _ _ => 2
  | text t => t.length
  | sequence items => weights items
  | _ => 1

def weights : List Element → Nat
  | [] => 0
  | e :: es => weight e + weights es

end

/-- Puts a grammar into the group that `opening` begins. -/
def wrap (opening : Text) (body : Text) : Text := opening ++ body ++ [')']

def unit (weight : Nat) (grammar : Text) : Text :=
  if 1 < weight then wrap "(?:".toList grammar else grammar

def joinAlternatives : List Text → Text
  | [] => []
  | [t] => t
  | t :: ts => t ++ '|' :: joinAlternatives ts

/-- The set of the characters in `chars`; a single one stands for itself. -/
def charInGrammar (chars : Text) : Text :=
  let escaped := escapePattern chars
  if chars.length = 1 then escaped else '[' :: escaped ++ [']']

mutual

def grammar : Element → Text
  | firstInInput => "\\A".toList
  | lastInInput => "\\z".toList
  | newLine => "(?:[\\r]?+[\\n])".toList
  | endOfPreviousMatch => "\\G".toList
  | start => ['^']
  | stop => ['$']
  | any => ['.']
  | skip => ".*".toList
  | space => "\\s".toList
  | spaces => "\\s*".toList
  | notSpace => "\\S".toList
  | digit => "\\d".toList
  | notDigit => "\\D".toList
  | word => "\\w".toList
  | words => "\\w+".toList
  | notWord => "\\W".toList
  | boundary => "\\b".toList
  | notBoundary => "\\B".toList
  | quote => ['"']
  | apostrophe => ['\x27']
  | backReference id => '\\' :: Text.decimal (id + 1)
  | special s => s.grammar
  | charIn chars => charInGrammar chars
  | charNotIn chars => "[^".toList ++ escapePattern chars ++ [']']
  | text t => escapePattern t
  | repeated body times => unit body.weight (grammar body) ++ times.grammar
  | setOptions o => o.setting
  | resetOptions o => o.resetting
  | capture body => wrap ['('] (grammar body)
  | either alternatives =>
    let joined := joinAlternatives (units alternatives)
    if 2 ≤ alternatives.length then wrap "(?:".toList joined else joined
  | sequence items => grammars items
  | grouping body => wrap "(?:".toList (grammar body)
  | atomic body => wrap "(?>".toList (grammar body)
  | lookAhead body => wrap "(?=".toList (grammar body)
  | notAhead body => wrap "(?!".toList (grammar body)
  | lookBehind body => wrap "(?<=".toList (grammar body)
  | notBehind body => wrap "(?<!".toList (grammar body)

def grammars : List Element → Text
  | [] => []
  | e :: es => grammar e ++ grammars es

def units : List Element → List Text
  | [] => []
  | e :: es => unit e.weight (grammar e) :: units es

end

instance : ToString Element := ⟨fun e => String.ofList e.grammar⟩

end Element

end PatternAlgebra
