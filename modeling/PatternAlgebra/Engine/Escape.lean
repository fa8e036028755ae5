import PatternAlgebra.Engine.CharSet
import PatternAlgebra.Text.Number

/-!
# Escapes

What a backslash introduces in a grammar. Reading stops with no answer at a letter that introduces
nothing, at malformed hexadecimal, at a code point that is no character and at an unknown
property. Any character but an ASCII letter or digit stands for itself after a backslash.
-/
namespace PatternAlgebra.Engine

inductive Assertion where
  | textStart | textEnd | lineStart | lineEnd
  | wordBoundary | notWordBoundary | wordStart | wordEnd
  | searchStart
  deriving DecidableEq, Repr

namespace Assertion

/-- Whether the assertion looks at lines. -/
def isLineBound : Assertion → Bool
  | lineStart | lineEnd => true
  | _ => false

/-- Whether the assertion looks at the text and its lines only. -/
def isEasy : Assertion → Bool
  | textStart | textEnd | lineStart | lineEnd => true
  | _ => false

end Assertion

/-- A group named by its number, by its name, or by how many groups before the next one it is. -/
inductive GroupRef where
  | number (n : Nat)
  | name (name : Text)
  | back (n : Nat)
  deriving DecidableEq, Repr

inductive Escape where
  /-- A character written with a backslash, which always keeps its case. -/
  | char (c : Char)
  /-- A character given by its code point. -/
  | codePoint (c : Char)
  | set (s : CharSet)
  | property (p : Property) (negated : Bool)
  | assertion (a : Assertion)
  | keep
  | backref (group : GroupRef)
  deriving DecidableEq, Repr

/-- The character whose code point has these hexadecimal digits. -/
def charOfHex? (digits : Text) : Option Char :=
  let n := Text.hexValue digits
  if n.isValidChar then some (Char.ofNat n) else none

/-- Reads exactly `width` hexadecimal digits, or one to eight of them between braces. -/
def readHex? (width : Nat) (t : Text) : Option (Char × Text) :=
  let digits := t.take width
  if digits.length = width ∧ digits.all Text.isHexDigit then
    (charOfHex? digits).map (·, t.drop width)
  else
    match t with
    | '\x7b' :: t =>
      let digits := t.takeWhile Text.isHexDigit
      match t.drop digits.length with
      | '\x7d' :: rest =>
        if 1 ≤ digits.length ∧ digits.length ≤ 8 then (charOfHex? digits).map (·, rest) else none
      | _ => none
    | _ => none

/-- Reads the property after `\p`: one letter, or a description between braces. -/
def readProperty? (negated : Bool) : Text → Option (Escape × Text)
  | '\x7b' :: t =>
    let body := t.takeWhile (· != '\x7d')
    match t.drop body.length with
    | _ :: rest =>
      (Property.read? body).map fun (p, differs) => (.property p (negated != differs), rest)
    | [] => none
  | c :: rest => (Property.ofName? [c]).map fun p => (.property p negated, rest)
  | [] => none

def isNameChar (c : Char) : Bool :=
  let k := Category.ofChar c
  k.isLetter || k.isNumber || c == '_'

/-- Reads a group name and the character that closes it. -/
def readName? (close : Char) (t : Text) : Option (Text × Text) :=
  let name := t.takeWhile isNameChar
  match t.drop name.length with
  | c :: rest => if c = close ∧ name ≠ [] then some (name, rest) else none
  | [] => none

/-- Reads the name of a group or, behind a hyphen, how far back it is. -/
def readReference? (close : Char) : Text → Option (GroupRef × Text)
  | '-' :: t => do
    let (n, rest) ← Text.readDecimal? t
    match rest with
    | c :: rest => if c = close then some (.back n, rest) else none
    | [] => none
  | t => (readName? close t).map fun (name, rest) => (.name name, rest)

/-- The escapes that mean the same inside and outside brackets. -/
def readSetEscape? : Text → Option (Escape × Text)
  | 'd' :: t => some (.set .digit, t)
  | 'D' :: t => some (.set (.complement .digit), t)
  | 's' :: t => some (.set .space, t)
  | 'S' :: t => some (.set (.complement .space), t)
  | 'w' :: t => some (.set .word, t)
  | 'W' :: t => some (.set (.complement .word), t)
  | 'h' :: t => some (.set .hexDigit, t)
  | 'H' :: t => some (.set (.complement .hexDigit), t)
  | 'p' :: t => readProperty? false t
  | 'P' :: t => readProperty? true t
  | 'x' :: t => (readHex? 2 t).map fun (c, rest) => (.codePoint c, rest)
  | 'u' :: t => (readHex? 4 t).map fun (c, rest) => (.codePoint c, rest)
  | 'U' :: t => (readHex? 8 t).map fun (c, rest) => (.codePoint c, rest)
  | 'a' :: t => some (.char '\x07', t)
  | 'e' :: t => some (.char '\x1b', t)
  | 'f' :: t => some (.char '\x0c', t)
  | 'n' :: t => some (.char '\n', t)
  | 'r' :: t => some (.char '\r', t)
  | 't' :: t => some (.char '\t', t)
  | 'v' :: t => some (.char '\x0b', t)
  | c :: t => if c.isAlpha || c.isDigit then none else some (.char c, t)
  | [] => none

/-- Reads an escape outside brackets, from behind the backslash. -/
def readEscape? : Text → Option (Escape × Text)
  | 'k' :: '<' :: t => (readReference? '>' t).map fun (ref, rest) => (.backref ref, rest)
  | 'k' :: '\x27' :: t => (readReference? '\x27' t).map fun (ref, rest) => (.backref ref, rest)
  | 'A' :: t => some (.assertion .textStart, t)
  | 'z' :: t => some (.assertion .textEnd, t)
  | 'b' :: '\x7b' :: _ => none
  | 'b' :: t => some (.assertion .wordBoundary, t)
  | 'B' :: '\x7b' :: _ => none
  | 'B' :: t => some (.assertion .notWordBoundary, t)
  | '<' :: t => some (.assertion .wordStart, t)
  | '>' :: t => some (.assertion .wordEnd, t)
  | 'G' :: t => some (.assertion .searchStart, t)
  | 'K' :: t => some (.keep, t)
  | c :: t =>
    if c.isDigit then
      (Text.readDecimal? (c :: t)).map fun (n, rest) => (.backref (.number n), rest)
    else readSetEscape? (c :: t)
  | [] => none

/-- Reads an escape inside brackets, where `\b` is a backspace and the letters of assertions and
references are themselves. -/
def readBracketEscape? : Text → Option (Escape × Text)
  | 'b' :: t => some (.char '\x08', t)
  | c :: t => if "AzBGKk".toList.contains c then some (.char c, t) else readSetEscape? (c :: t)
  | [] => none

end PatternAlgebra.Engine
