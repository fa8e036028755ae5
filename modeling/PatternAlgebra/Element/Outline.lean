import PatternAlgebra.Element.Basic
import PatternAlgebra.Text.LetterCase
import PatternAlgebra.Text.Number

/-!
# Outlines of elements

An outline explains an element in numbered steps, one line for each node. A line is indented by a
tab for each level and begins with the path to its node; captures are numbered in the order in
which they open.
-/
namespace PatternAlgebra

namespace Outline

def charNames : List (Char × String) :=
  [(' ', "Space"), ('\t', "Tab"), ('\r', "Carriage return"), ('\n', "New-line"),
   ('\\', "Slash"), ('/', "Forward slash"), ('\x60', "Backtick"),
   ('"', "Double quotation mark"), ('\x27', "Single quotation mark"), ('.', "Period"),
   (',', "Comma"), (';', "Semicolon"), (':', "Colon"), ('?', "Question mark"), ('*', "Star"),
   ('+', "Plus"), ('(', "Left parenthesis"), (')', "Right parenthesis"),
   ('[', "Left square bracket"), (']', "Right square bracket"), ('<', "Left angle bracket"),
   ('>', "Right angle bracket")]

def charName (c : Char) : Text := (charNames.lookup c).elim [c] String.toList

/-- A list of phrases with `mark` between two of them. -/
def join (mark : Text) : List Text → Text
  | [] => []
  | [t] => t
  | t :: ts => t ++ mark ++ join mark ts

/-- The names of characters in lower case, as in `a, b or c`. -/
def charList (chars : Text) : Text :=
  let names := chars.map fun c => lowerCaseText (charName c)
  match names with
  | [] => []
  | [name] => name
  | names => join ", ".toList names.dropLast ++ " or ".toList ++ names.getLastD []

def charInPhrase (chars : Text) : Text :=
  match chars with
  | [] => []
  | [c] => charName c
  | chars => charList chars

def charNotInPhrase (chars : Text) : Text :=
  match chars with
  | [] => []
  | chars => "Any character except ".toList ++ charList chars

def optionsPhrase (phrases : List (Bool × String)) : Text :=
  "Set options: ".toList ++ join ", ".toList ((phrases.filter (·.1)).map (·.2.toList))

def setPhrase (o : MatchOptions) : Text :=
  optionsPhrase [(o.matchCase, "match case"),
    (o.anchorsMatchLines, "match anchors to line boundaries"),
    (o.anyIncludesLineChars, "include line characters when matching any"),
    (o.unicodeWordBoundaries, "use unicode word boundaries")]

def resetPhrase (o : MatchOptions) : Text :=
  optionsPhrase [(o.matchCase, "do not match case"),
    (o.anchorsMatchLines, "match anchors to input boundaries"),
    (o.anyIncludesLineChars, "exclude line characters when matching any"),
    (o.unicodeWordBoundaries, "use ascii word boundaries")]

def specialPhrase : SpecialChar → Text
  | .slash => "Slash".toList
  | .bell => "Bell".toList
  | .backspace => "Backspace".toList
  | .escape => "Escape".toList
  | .formfeed => "Formfeed".toList
  | .tab => "Tab".toList
  | .grapheme => "Grapheme".toList
  | .control name => "Control character ".toList ++ name
  | .codePoint n => "Character ".toList ++ Text.hex n
  | .named name => "Unicode character named ".toList ++ name
  | .withProperty name => "Unicode character with property ".toList ++ name
  | .withoutProperty name => "Unicode character without property ".toList ++ name

def collectPhrase : Collect → Text
  | .possessive => ", preferring as many as possible".toList
  | .reluctant => ", preferring as few as possible".toList

def optionalPhrase : Collect → Text
  | .possessive => ", preferring once".toList
  | .reluctant => ", preferring none".toList

def repeatPhrase (times : Repeat) : Text :=
  let mark (c : Option Collect) : Text := c.elim [] collectPhrase
  match times with
  | .optional c => "Match at most once".toList ++ c.elim [] optionalPhrase
  | .oneOrMore c => "Match one or more times".toList ++ mark c
  | .zeroOrMore c => "Match any number of times".toList ++ mark c
  | .exactly n => "Match exactly ".toList ++ Text.decimal n ++ " times".toList
  | .atLeast n c => "Match at least ".toList ++ Text.decimal n ++ " times".toList ++ mark c
  | .atMost m c => "Match at most ".toList ++ Text.decimal m ++ " times".toList ++ mark c
  | .between n m c =>
    "Match between ".toList ++ Text.decimal n ++ " and ".toList ++ Text.decimal m ++
      " times".toList ++ mark c

def pathText (path : List Nat) : Text := join ['.'] (path.map Text.decimal)

def onlyChild (path : List Nat) : List Nat := path ++ [1]

/-- What comes before the phrase of the node at a path. -/
def lineStart (path : List Nat) : Text :=
  '\n' :: List.replicate path.length '\t' ++ pathText path ++ ") ".toList

/-- A phrase with an only child below it, of which `child` is the description at the path that is
passed to it. -/
def withOnlyChild (phrase : Text) (path : List Nat) (child : List Nat → Text × Nat) : Text × Nat :=
  let (lines, n) := child (onlyChild path)
  (phrase ++ ':' :: lineStart (onlyChild path) ++ lines, n)

end Outline

namespace Element

open Outline

mutual

/-- The phrase of an element and the lines below it. `path` leads to the element and `captures`
counts the captures before it; the count after it is returned too. -/
def describe : Element → (path : List Nat) → (captures : Nat) → Text × Nat
  | firstInInput, _, n => ("First character of the input".toList, n)
  | lastInInput, _, n => ("Last character of the input".toList, n)
  | newLine, _, n => ("New line".toList, n)
  | endOfPreviousMatch, _, n => ("End of previous match".toList, n)
  | start, _, n => ("First character of line".toList, n)
  | stop, _, n => ("Last character of line".toList, n)
  | any, _, n => ("Any one character".toList, n)
  | skip, _, n => ("Any character sequence".toList, n)
  | space, _, n => ("Space".toList, n)
  | spaces, _, n => ("Multiple spaces".toList, n)
  | notSpace, _, n => ("Non-space character".toList, n)
  | digit, _, n => ("Digit".toList, n)
  | notDigit, _, n => ("Non-digit".toList, n)
  | word, _, n => ("Letter".toList, n)
  | words, _, n => ("Sequence of letters".toList, n)
  | notWord, _, n => ("Non-letter".toList, n)
  | boundary, _, n => ("Word boundary".toList, n)
  | notBoundary, _, n => ("Non-word boundary".toList, n)
  | quote, _, n => ("Double quotation mark".toList, n)
  | apostrophe, _, n => ("Single quotation mark".toList, n)
  | backReference id, _, n => ("Previous match #".toList ++ Text.decimal (id + 1), n)
  | special s, _, n => (specialPhrase s, n)
  | charIn chars, _, n => (charInPhrase chars, n)
  | charNotIn chars, _, n => (charNotInPhrase chars, n)
  | text t, _, n => (t, n)
  | setOptions o, _, n => (setPhrase o, n)
  | resetOptions o, _, n => (resetPhrase o, n)
  | repeated body times, path, n =>
    withOnlyChild (repeatPhrase times) path fun child => describe body child n
  | capture body, path, n =>
    withOnlyChild ("Match and capture #".toList ++ Text.decimal (n + 1)) path fun child =>
      describe body child (n + 1)
  | either alternatives, path, n =>
    let (lines, n) := describeEach alternatives path 1 n
    ("Match any one of:".toList ++ lines, n)
  | sequence items, path, n =>
    let (lines, n) := describeEach items path 1 n
    ("Match sequence:".toList ++ lines, n)
  | grouping body, path, n =>
    withOnlyChild "Match sequence".toList path fun child => describe body child n
  | atomic body, path, n =>
    withOnlyChild "Match whole or none of pattern".toList path fun child => describe body child n
  | lookAhead body, path, n =>
    withOnlyChild "Look ahead pattern".toList path fun child => describe body child n
  | notAhead body, path, n =>
    withOnlyChild "Look ahead pattern not to match".toList path fun child => describe body child n
  | lookBehind body, path, n =>
    withOnlyChild "Look behind for pattern".toList path fun child => describe body child n
  | notBehind body, path, n =>
    withOnlyChild "Look behind for pattern not to match".toList path fun child =>
      describe body child n

/-- The lines of children, of which the first has the number `index`. -/
def describeEach : List Element → (path : List Nat) → (index captures : Nat) → Text × Nat
  | [], _, _, n => ([], n)
  | e :: es, path, index, n =>
    let child := path ++ [index]
    let (first, n) := describe e child n
    let (rest, n) := describeEach es path (index + 1) n
    (lineStart child ++ first ++ rest, n)

end

def steps (e : Element) : Text := (describe e [] 0).1

end Element

end PatternAlgebra
