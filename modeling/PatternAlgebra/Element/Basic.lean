import PatternAlgebra.Engine.Flags

/-!
# Elements

The nodes of a pattern's expression tree. A tree can be written as a grammar for the engine and
explained as an outline of steps.
-/
namespace PatternAlgebra

/-- How a repetition collects: as many as possible without giving back, or as few as possible. -/
inductive Collect where
  | possessive
  | reluctant
  deriving DecidableEq, Repr

/-- How often an element repeats. -/
inductive Repeat where
  | optional (collect : Option Collect)
  | oneOrMore (collect : Option Collect)
  | zeroOrMore (collect : Option Collect)
  | exactly (n : Nat)
  | atLeast (n : Nat) (collect : Option Collect)
  | atMost (m : Nat) (collect : Option Collect)
  | between (n m : Nat) (collect : Option Collect)
  deriving DecidableEq, Repr

/-- Characters that need an escape in the grammar. -/
inductive SpecialChar where
  | slash
  | bell
  | backspace
  | escape
  | formfeed
  | tab
  | grapheme
  | control (name : Text)
  | codePoint (n : Nat)
  | named (name : Text)
  | withProperty (name : Text)
  | withoutProperty (name : Text)
  deriving DecidableEq, Repr

inductive Element where
  | any
  | space
  | notSpace
  | digit
  | notDigit
  | word
  | notWord
  | newLine
  | quote
  | apostrophe
  | charIn (chars : Text)
  | charNotIn (chars : Text)
  | special (s : SpecialChar)
  | start
  | stop
  | firstInInput
  | lastInInput
  | boundary
  | notBoundary
  | endOfPreviousMatch
  /-- The text of a capture; captures count from zero. -/
  | backReference (id : Nat)
  | text (t : Text)
  | repeated (body : Element) (times : Repeat)
  | either (alternatives : List Element)
  | sequence (items : List Element)
  /-- A group that captures nothing. -/
  | grouping (body : Element)
  | capture (body : Element)
  | atomic (body : Element)
  | lookAhead (body : Element)
  | notAhead (body : Element)
  | lookBehind (body : Element)
  | notBehind (body : Element)
  /-- Any run of characters. -/
  | skip
  /-- Any run of spaces. -/
  | spaces
  | words
  | setOptions (options : MatchOptions)
  | resetOptions (options : MatchOptions)
  deriving Repr

end PatternAlgebra
