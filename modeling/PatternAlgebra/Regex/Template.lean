import PatternAlgebra.Text.Number

/-!
# Replacement templates

In a template `$` and digits insert what a group has matched, group 0 being the whole match, and a
backslash takes the next character as it is. The first digit always belongs to the number; a
further one does while the number stays below the count of groups. The engine has a notation of its
own for templates, in which `encode` writes the pieces.
-/
namespace PatternAlgebra.Template

inductive Piece where
  | literal (t : Text)
  | group (n : Nat)
  deriving DecidableEq, Repr

/-- What the characters read so far leave open. -/
inductive Mode where
  | plain
  | backslash
  | dollar
  | number (n : Nat)
  deriving DecidableEq, Repr

/-- A template that is being read: its complete pieces and the literal before the current
character, both last first. -/
structure Reader where
  pieces : List Piece := []
  literal : Text := []
  mode : Mode := .plain
  deriving DecidableEq, Repr

namespace Reader

def addChar (r : Reader) (c : Char) : Reader := { r with literal := c :: r.literal, mode := .plain }

def endLiteral (r : Reader) : Reader :=
  if r.literal.isEmpty then r
  else { r with pieces := .literal r.literal.reverse :: r.pieces, literal := [] }

def addGroup (r : Reader) (n : Nat) : Reader :=
  { r with pieces := .group n :: r.pieces, mode := .plain }

def readPlain (r : Reader) (c : Char) : Reader :=
  if c = '\\' then { r with mode := .backslash }
  else if c = '$' then { r with mode := .dollar }
  else r.addChar c

def read (groups : Nat) (r : Reader) (c : Char) : Reader :=
  let digit := Text.digitValue c
  match r.mode with
  | .plain => r.readPlain c
  | .backslash => r.addChar c
  | .dollar =>
    if c.isDigit then { r.endLiteral with mode := .number digit }
    else (r.addChar '$').readPlain c
  | .number n =>
    if c.isDigit ∧ n * 10 + digit < groups then { r with mode := .number (n * 10 + digit) }
    else (r.addGroup n).readPlain c

def finish (r : Reader) : List Piece :=
  let r := match r.mode with
    | .dollar => r.addChar '$'
    | .number n => r.addGroup n
    | _ => r
  r.endLiteral.pieces.reverse

end Reader

/-- The pieces of a template for an expression with this many groups, the whole match counted. -/
def parse (groups : Nat) (template : Text) : List Piece :=
  (template.foldl (Reader.read groups) {}).finish

/-- The text of the pieces, where `group` gives that of each group. -/
def expand (group : Nat → Text) (pieces : List Piece) : Text :=
  pieces.flatMap fun
    | .literal t => t
    | .group n => group n

/-- Literal text in the engine's notation, in which a dollar sign is written twice. -/
def encodeLiteral (t : Text) : Text := t.flatMap fun c => if c = '$' then ['$', '$'] else [c]

/-- The pieces in the engine's notation. -/
def encode (pieces : List Piece) : Text :=
  pieces.flatMap fun
    | .literal t => encodeLiteral t
    | .group n => '$' :: '\x7b' :: Text.decimal n ++ ['\x7d']

/-- The template that inserts `t` as it is. -/
def escape (t : Text) : Text := t.flatMap fun c => if c = '\\' ∨ c = '$' then ['\\', c] else [c]

end PatternAlgebra.Template
