import PatternAlgebra.Element.Basic
import PatternAlgebra.Text.Number

/-!
# Reading grammars

A grammar is read sign by sign into an element: a quantifier applies to the item in front of it, a
bar ends an alternative, and a stack keeps the groups that are open. A set in brackets is a list of
characters. `normal` is the form of an element that its grammar shows, in which texts are single
characters and it makes no difference where items in a row are put into a group.
-/
namespace PatternAlgebra

inductive GroupKind where
  | grouping
  | capture
  | atomic
  | lookAhead
  | notAhead
  | lookBehind
  | notBehind
  deriving DecidableEq, Repr

namespace GroupKind

def element : GroupKind → Element → Element
  | grouping => .grouping
  | capture => .capture
  | atomic => .atomic
  | lookAhead => .lookAhead
  | notAhead => .notAhead
  | lookBehind => .lookBehind
  | notBehind => .notBehind

/-- The kind of a group, from what stands behind its opening parenthesis. -/
def read? : Text → Option (GroupKind × Text)
  | '?' :: ':' :: t => some (grouping, t)
  | '?' :: '>' :: t => some (atomic, t)
  | '?' :: '=' :: t => some (lookAhead, t)
  | '?' :: '!' :: t => some (notAhead, t)
  | '?' :: '<' :: '=' :: t => some (lookBehind, t)
  | '?' :: '<' :: '!' :: t => some (notBehind, t)
  | '?' :: _ => none
  | t => some (capture, t)

end GroupKind

namespace Repeat

/-- How a repetition collects, from the mark behind its bounds. -/
def readCollect : Text → Option Collect × Text
  | '+' :: t => (some .possessive, t)
  | '?' :: t => (some .reluctant, t)
  | t => (none, t)

def ofCount (n : Nat) : Option Collect → Repeat
  | none => exactly n
  | some c => between n n (some c)

/-- The bounds behind an opening brace. Either of two bounds can be missing. -/
def readBounds? (t : Text) : Option ((Option Collect → Repeat) × Text) :=
  let (least, t) := t.span Char.isDigit
  match t with
  | '\x7d' :: t => if least.isEmpty then none else some (ofCount (Text.decimalValue least), t)
  | ',' :: t =>
    let (most, t) := t.span Char.isDigit
    match t with
    | '\x7d' :: t =>
      if most.isEmpty then some (atLeast (Text.decimalValue least), t)
      else if least.isEmpty then some (atMost (Text.decimalValue most), t)
      else some (between (Text.decimalValue least) (Text.decimalValue most), t)
    | _ => none
  | _ => none

def readCore? : Text → Option ((Option Collect → Repeat) × Text)
  | '?' :: t => some (optional, t)
  | '+' :: t => some (oneOrMore, t)
  | '*' :: t => some (zeroOrMore, t)
  | '\x7b' :: t => readBounds? t
  | _ => none

/-- Reads a quantifier with the mark for how it collects. -/
def read? (t : Text) : Option (Repeat × Text) :=
  (readCore? t).map fun (times, t) =>
    let (collect, t) := readCollect t
    (times collect, t)

end Repeat

/-- What the reader of a grammar meets: an item, a quantifier, or a part of the frame that groups
and alternatives make. -/
inductive Sign where
  | item (e : Element)
  | quantifier (times : Repeat)
  | opening (kind : GroupKind)
  | bar
  | closing
  deriving Repr

namespace Sign

/-- The letters that stand for control characters. -/
def controls : List (Char × Char) :=
  [('a', '\x07'), ('e', '\x1b'), ('f', '\x0c'), ('n', '\n'), ('r', '\r'), ('t', '\t'),
   ('v', '\x0b')]

/-- The character that one behind a backslash stands for. Only letters and digits do not stand for
themselves. -/
def escapedChar? (c : Char) : Option Char := if c.isAlphanum then controls.lookup c else some c

/-- The letters that stand for a class of characters or a place. -/
def classes : List (Char × Element) :=
  [('s', .space), ('S', .notSpace), ('d', .digit), ('D', .notDigit), ('w', .word), ('W', .notWord),
   ('b', .boundary), ('B', .notBoundary), ('A', .firstInInput), ('z', .lastInInput),
   ('G', .endOfPreviousMatch)]

def escaped? (c : Char) : Option Element :=
  classes.lookup c <|> (escapedChar? c).map fun d => .text [d]

/-- The characters of a set up to the closing bracket, and what stands behind it. An opening bracket
or a hyphen that is not escaped would make the set more than a list. -/
def members? : Text → Option (Text × Text)
  | [] => none
  | ']' :: t => some ([], t)
  | ['\\'] => none
  | '\\' :: c :: t => do
    let d ← escapedChar? c
    let (ds, t) ← members? t
    some (d :: ds, t)
  | c :: t =>
    if c = '[' ∨ c = '-' then none else (members? t).map fun (ds, t) => (c :: ds, t)

/-- The same from the beginning of the set, where a closing bracket is a character. -/
def firstMembers? : Text → Option (Text × Text)
  | ']' :: t => (members? t).map fun (ds, t) => (']' :: ds, t)
  | t => members? t

/-- A set, from what stands behind its opening bracket. -/
def set? : Text → Option (Element × Text)
  | '^' :: t => (firstMembers? t).map fun (cs, t) => (.charNotIn cs, t)
  | t => (firstMembers? t).map fun (cs, t) => (.charIn cs, t)

/-- Reads a sign that is no quantifier. -/
def readOther? : Text → Option (Sign × Text)
  | [] => none
  | ['\\'] => none
  | '\\' :: c :: t => (escaped? c).map fun e => (.item e, t)
  | '[' :: t => (set? t).map fun (e, t) => (.item e, t)
  | '(' :: t => (GroupKind.read? t).map fun (kind, t) => (.opening kind, t)
  | '|' :: t => some (.bar, t)
  | ')' :: t => some (.closing, t)
  | '.' :: t => some (.item .any, t)
  | '^' :: t => some (.item .start, t)
  | '$' :: t => some (.item .stop, t)
  | c :: t => some (.item (.text [c]), t)

def read? (t : Text) : Option (Sign × Text) :=
  match Repeat.read? t with
  | some (times, t) => some (.quantifier times, t)
  | none => readOther? t

end Sign

/-- The alternatives of a group that have been read and the items of the current one, both last
first. -/
structure Branches where
  alternatives : List Element := []
  items : List Element := []
  deriving Repr

namespace Branches

def current (b : Branches) : Element := .sequence b.items.reverse

def push (b : Branches) (e : Element) : Branches := { b with items := e :: b.items }

/-- All alternatives as one element. -/
def element (b : Branches) : Element :=
  match b.alternatives with
  | [] => b.current
  | alternatives => .either (b.current :: alternatives).reverse

/-- Repeats the last item. There must be one, and it must not be a repetition already. -/
def quantify? (b : Branches) (times : Repeat) : Option Branches :=
  match b.items with
  | [] => none
  | .repeated _ _ :: _ => none
  | e :: items => some { b with items := .repeated e times :: items }

end Branches

/-- A grammar that is being read: the innermost open group, and around it the others, each with the
kind of the group that was opened in it. -/
structure GrammarReader where
  inner : Branches := {}
  outer : List (GroupKind × Branches) := []
  deriving Repr

namespace GrammarReader

def read? (r : GrammarReader) : Sign → Option GrammarReader
  | .item e => some { r with inner := r.inner.push e }
  | .quantifier times => (r.inner.quantify? times).map fun inner => { r with inner }
  | .opening kind => some { inner := {}, outer := (kind, r.inner) :: r.outer }
  | .bar => some { r with inner := { alternatives := r.inner.current :: r.inner.alternatives } }
  | .closing =>
    match r.outer with
    | [] => none
    | (kind, b) :: outer => some { inner := b.push (kind.element r.inner.element), outer }

/-- Reads the rest of a grammar. Each sign takes at least one character. -/
def readAll? (r : GrammarReader) (t : Text) : Option GrammarReader :=
  if t.isEmpty then some r
  else
    match Sign.read? t with
    | none => none
    | some (sign, rest) =>
      if rest.length < t.length then (r.read? sign).bind fun r => r.readAll? rest else none
termination_by t.length

end GrammarReader

namespace Element

/-- Reads a grammar, in which all groups must be closed. -/
def read? (t : Text) : Option Element :=
  (GrammarReader.readAll? {} t).bind fun r => if r.outer.isEmpty then some r.inner.element else none

mutual

/-- What stands in a row in an element. Single characters are texts, skipping and runs are
repetitions, and a group that only holds items together leaves no trace. -/
def pieces : Element → List Element
  | text t => t.map fun c => .text [c]
  | charIn [c] => [.text [c]]
  | quote => [.text ['"']]
  | apostrophe => [.text ['\x27']]
  | newLine => [.repeated (.sequence [.text ['\r']]) (.optional (some .possessive)), .text ['\n']]
  | skip => [.repeated (.sequence [.any]) (.zeroOrMore none)]
  | spaces => [.repeated (.sequence [.space]) (.zeroOrMore none)]
  | words => [.repeated (.sequence [.word]) (.oneOrMore none)]
  | sequence items => piecesOfEach items
  | grouping body => pieces body
  | either [e] => pieces e
  | either es => [.either (rows es)]
  | repeated body times => [.repeated (.sequence (pieces body)) times]
  | capture body => [.capture (.sequence (pieces body))]
  | atomic body => [.atomic (.sequence (pieces body))]
  | lookAhead body => [.lookAhead (.sequence (pieces body))]
  | notAhead body => [.notAhead (.sequence (pieces body))]
  | lookBehind body => [.lookBehind (.sequence (pieces body))]
  | notBehind body => [.notBehind (.sequence (pieces body))]
  | e => [e]

def piecesOfEach : List Element → List Element
  | [] => []
  | e :: es => pieces e ++ piecesOfEach es

def rows : List Element → List Element
  | [] => []
  | e :: es => .sequence (pieces e) :: rows es

end

/-- The element as one row of its pieces. -/
def normal (e : Element) : Element := .sequence e.pieces

end Element

end PatternAlgebra
