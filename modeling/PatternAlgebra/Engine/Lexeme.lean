import PatternAlgebra.Engine.Bracket

/-!
# Lexemes

A grammar is read one lexeme at a time. What a character means depends on two things that the
reader passes in: whether blanks and comments are free, and whether an atom has just been read,
since only behind an atom do braces count repetitions.
-/
namespace PatternAlgebra.Engine

/-- The flags that a grammar can change on its way. -/
structure SyntaxFlags where
  ignoreCase : Bool := false
  multiLine : Bool := false
  dotMatchesNewLine : Bool := false
  swapGreed : Bool := false
  /-- Blanks and comments stand for nothing. -/
  extended : Bool := false
  deriving DecidableEq, Repr

inductive SyntaxFlag where
  | ignoreCase | multiLine | dotMatchesNewLine | swapGreed | extended
  deriving DecidableEq, Repr

def SyntaxFlags.put (f : SyntaxFlags) (change : SyntaxFlag × Bool) : SyntaxFlags :=
  match change with
  | (.ignoreCase, b) => { f with ignoreCase := b }
  | (.multiLine, b) => { f with multiLine := b }
  | (.dotMatchesNewLine, b) => { f with dotMatchesNewLine := b }
  | (.swapGreed, b) => { f with swapGreed := b }
  | (.extended, b) => { f with extended := b }

inductive Opener where
  | capture (name : Option Text)
  | atomic
  | ahead (negated : Bool)
  | behind (negated : Bool)
  /-- A choice on whether a group has matched. -/
  | choice (group : GroupRef)
  /-- A choice on an expression, which comes first. -/
  | condition
  /-- Repeats what a group has matched. It is complete, but counts as a group. -/
  | reference (name : Text)
  /-- A group that captures nothing and ends its changes of flags. -/
  | scope (changes : List (SyntaxFlag × Bool))
  deriving DecidableEq, Repr

inductive Lexeme where
  | char (c : Char)
  | escape (e : Escape)
  | dot
  | caret
  | dollar
  | bracket (pieces : List Bracket.Piece)
  | opener (o : Opener)
  | directive (changes : List (SyntaxFlag × Bool))
  | close
  | bar
  | question
  | plus
  | star
  | braces (least : Nat) (most : Option Nat)
  deriving DecidableEq, Repr

namespace Lexeme

/-- What follows a comment, from behind its opening; a backslash hides the next character. -/
def skipComment? : Text → Option Text
  | [] => none
  | ')' :: t => some t
  | '\\' :: _ :: t => skipComment? t
  | _ :: t => skipComment? t

/-- What follows comments and, in extended grammars, blanks and the remarks behind `#`. -/
def skipBlanks? (extended : Bool) : (fuel : Nat) → Text → Option Text
  | 0, t => some t
  | fuel + 1, '(' :: '?' :: '#' :: t => (skipComment? t).bind (skipBlanks? extended fuel)
  | fuel + 1, c :: t =>
    if extended && c == '#' then
      skipBlanks? extended fuel ((t.dropWhile (· != '\n')).drop 1)
    else if extended && (c == ' ' || c == '\r' || c == '\n' || c == '\t') then
      skipBlanks? extended fuel t
    else some (c :: t)
  | _, [] => some []

/-- Whether there is something to skip at the beginning of a text. -/
def beginsWithBlank (extended : Bool) : Text → Bool
  | '(' :: '?' :: '#' :: _ => true
  | c :: _ => extended && (c == '#' || c == ' ' || c == '\r' || c == '\n' || c == '\t')
  | [] => false

def skip? (extended : Bool) (t : Text) : Option Text :=
  if beginsWithBlank extended t then skipBlanks? extended t.length t else some t

/-- Reads `n\x7d`, `n,\x7d`, `,m\x7d` or `n,m\x7d`, from behind the opening brace. -/
def readBraces? (extended : Bool) (t : Text) : Option (Nat × Option Nat × Text) := do
  let t ← skip? extended t
  let (least, t) ← match t with
    | ',' :: _ => some (0, t)
    | _ => Text.readDecimal? t
  match ← skip? extended t with
  | '\x7d' :: rest => some (least, some least, rest)
  | ',' :: t =>
    let t ← skip? extended t
    let (most, t) := match Text.readDecimal? t with
      | some (most, t) => (some most, t)
      | none => (none, t)
    match ← skip? extended t with
    | '\x7d' :: rest => some (least, most, rest)
    | _ => none
  | _ => none

def flagOfLetter? : Char → Option SyntaxFlag
  | 'i' => some .ignoreCase
  | 'm' => some .multiLine
  | 's' => some .dotMatchesNewLine
  | 'U' => some .swapGreed
  | 'x' => some .extended
  | _ => none

/-- Reads flag letters up to `)`, which ends a directive, or `:`, which begins a scope. `length`
is that of the text at the first letter. -/
def readFlags? (extended : Bool) (length : Nat) (negative : Bool)
    (changes : List (SyntaxFlag × Bool)) : (fuel : Nat) → Text → Option (Lexeme × Text)
  | 0, _ => none
  | fuel + 1, t => do
    let t ← skip? extended t
    let consumed := length - t.length
    let onlySign := negative && consumed == 1
    match t with
    | [] => none
    | ')' :: rest => if consumed = 0 ∨ onlySign then none else some (directive changes, rest)
    | ':' :: rest => if onlySign then none else some (opener (.scope changes), rest)
    | '-' :: rest => if negative then none else readFlags? extended length true changes fuel rest
    | 'u' :: rest =>
      if negative then none else readFlags? extended length negative changes fuel rest
    | c :: rest =>
      let flag ← flagOfLetter? c
      let extended := if flag = .extended then !negative else extended
      readFlags? extended length negative (changes ++ [(flag, !negative)]) fuel rest

/-- Reads the condition of a choice, from behind its opening parenthesis. -/
def readCondition? (extended : Bool) (t : Text) : Option (Lexeme × Text) := do
  let closing (ref : GroupRef) (t : Text) : Option (Lexeme × Text) := do
    match ← skip? extended t with
    | ')' :: rest => some (opener (.choice ref), rest)
    | _ => none
  match t with
  | [] => none
  | '<' :: t =>
    let (ref, t) ← readReference? '>' t
    closing ref t
  | '\x27' :: t =>
    let (ref, t) ← readReference? '\x27' t
    closing ref t
  | c :: rest =>
    if c.isDigit then
      let (n, t) ← Text.readDecimal? t
      closing (.number n) t
    else some (opener .condition, c :: rest)

/-- Reads what opens a group, from behind its parenthesis. -/
def readOpener? (extended : Bool) (t : Text) : Option (Lexeme × Text) := do
  match ← skip? extended t with
  | '?' :: '=' :: t => some (opener (.ahead false), t)
  | '?' :: '!' :: t => some (opener (.ahead true), t)
  | '?' :: '<' :: '=' :: t => some (opener (.behind false), t)
  | '?' :: '<' :: '!' :: t => some (opener (.behind true), t)
  | '?' :: '<' :: t =>
    let (name, rest) ← readName? '>' t
    some (opener (.capture (some name)), rest)
  | '?' :: 'P' :: '<' :: t =>
    let (name, rest) ← readName? '>' t
    some (opener (.capture (some name)), rest)
  | '?' :: 'P' :: '=' :: t =>
    let (name, rest) ← readName? ')' t
    some (opener (.reference name), rest)
  | '?' :: '>' :: t => some (opener .atomic, t)
  | '?' :: '(' :: t => readCondition? extended t
  | '?' :: t => readFlags? extended t.length false [] (t.length + 1) t
  | t => some (opener (.capture none), t)

/-- The next lexeme of a grammar that does not begin with a blank. -/
def next? (extended afterAtom : Bool) : Text → Option (Lexeme × Text)
  | [] => none
  | '.' :: t => some (dot, t)
  | '^' :: t => some (caret, t)
  | '$' :: t => some (dollar, t)
  | '(' :: t => readOpener? extended t
  | ')' :: t => some (close, t)
  | '|' :: t => some (bar, t)
  | '?' :: t => some (question, t)
  | '+' :: t => some (plus, t)
  | '*' :: t => some (star, t)
  | '\\' :: t => (readEscape? t).map fun (e, rest) => (escape e, rest)
  | '[' :: t => (Bracket.delimit? t).map fun (pieces, rest) => (bracket pieces, rest)
  | '\x7b' :: t =>
    match if afterAtom then readBraces? extended t else none with
    | some (least, most, rest) => some (braces least most, rest)
    | none => some (char '\x7b', t)
  | c :: t => some (char c, t)

end Lexeme

end PatternAlgebra.Engine
