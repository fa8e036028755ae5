import PatternAlgebra.Engine.Expr

/-!
# Bracket expressions

A bracket expression is read twice. The first reading finds its end by counting brackets and
resolves the escapes; the second makes a set of what is between, with nested brackets, ranges,
named classes and the operators `&&`, `--` and `~~`. A character with a meaning that was escaped
never has that meaning.

An opening bracket that ends a range counts for the first reading only. The second one then comes
to the end of the set too early, and what is left of the brackets follows the set as plain items.
-/
namespace PatternAlgebra.Engine.Bracket

inductive Piece where
  | bare (c : Char)
  | escaped (c : Char)
  | named (e : Escape)
  deriving DecidableEq, Repr

/-- Whether an escape takes a meaning from the character. -/
def hasMeaning (c : Char) : Bool := "\\.+*?()|[]\x7b\x7d^$#&-~".toList.contains c

def piecesOfEscape? : Escape → Option (List Piece)
  | .char c | .codePoint c => some [if hasMeaning c then .escaped c else .bare c]
  | .set .hexDigit => some ("[0-9A-Fa-f]".toList.map .bare)
  | .set (.complement .hexDigit) => some ("[^0-9A-Fa-f]".toList.map .bare)
  | .set s => some [.named (.set s)]
  | .property p negated => some [.named (.property p negated)]
  | .assertion _ | .keep | .backref _ => none

/-- The pieces up to and with the bracket that closes the `depth + 1` open ones, and the rest. Each
step reads at least one character. -/
def piecesToClose? : (fuel depth : Nat) → Text → Option (List Piece × Text)
  | 0, _, _ => none
  | _, _, [] => none
  | fuel + 1, depth, '\\' :: t => do
    let (e, rest) ← readBracketEscape? t
    let some pieces := piecesOfEscape? e | none
    let (more, rest) ← piecesToClose? fuel depth rest
    some (pieces ++ more, rest)
  | fuel + 1, depth, '[' :: t => do
    let (pieces, rest) ← piecesToClose? fuel (depth + 1) t
    some (.bare '[' :: pieces, rest)
  | _ + 1, 0, ']' :: t => some ([.bare ']'], t)
  | fuel + 1, depth + 1, ']' :: t => do
    let (pieces, rest) ← piecesToClose? fuel depth t
    some (.bare ']' :: pieces, rest)
  | fuel + 1, depth, c :: t => do
    let (pieces, rest) ← piecesToClose? fuel depth t
    some (.bare c :: pieces, rest)

/-- The pieces of a bracket expression, from behind its opening bracket. A closing bracket that
comes first, or right behind `^`, is an ordinary character. -/
def delimit? (t : Text) : Option (List Piece × Text) :=
  let upToClose (lead : List Piece) (t : Text) :=
    (piecesToClose? (t.length + 1) 0 t).map fun (pieces, rest) => (lead ++ pieces, rest)
  match t with
  | '^' :: ']' :: t => upToClose [.bare '^', .bare ']'] t
  | '^' :: t => upToClose [.bare '^'] t
  | ']' :: t => upToClose [.bare ']'] t
  | t => upToClose [] t

inductive Operator where
  | inter | diff | symmDiff
  deriving DecidableEq, Repr

def Operator.apply : Operator → CharSet → CharSet → CharSet
  | inter, s, t => .inter s t
  | diff, s, t => .diff s t
  | symmDiff, s, t => .symmDiff s t

/-- What stands before the last operator of a bracket expression, and how deep it nests. -/
structure Operand where
  set : CharSet
  nesting : Nat
  operator : Operator
  deriving DecidableEq, Repr

/-- A bracket expression that is still open: what stands before its last operator, and the items
since then, with their number and the depth of the deepest. -/
structure Frame where
  negated : Bool
  left : Option Operand := none
  items : CharSet := .nothing
  count : Nat := 0
  nesting : Nat := 0
  deriving DecidableEq, Repr

namespace Frame

def add (f : Frame) (s : CharSet) (nesting : Nat) : Frame :=
  { f with items := .union f.items s, count := f.count + 1, nesting := max f.nesting nesting }

def value (ignoreCase : Bool) (f : Frame) : CharSet :=
  match f.left with
  | none => f.items.underCase ignoreCase
  | some left => left.operator.apply left.set (f.items.underCase ignoreCase)

/-- How deep the set so far nests, where its last items nest `own` deep. -/
def depth (own : Nat) (f : Frame) : Nat :=
  match f.left with
  | none => own
  | some left => max left.nesting own + 1

def operate (ignoreCase : Bool) (f : Frame) (operator : Operator) : Frame :=
  { negated := f.negated, left := some ⟨f.value ignoreCase, f.depth (f.nesting + 1), operator⟩ }

def close (ignoreCase : Bool) (f : Frame) : CharSet × Nat :=
  let s := f.value ignoreCase
  let own := if 2 ≤ f.count then f.nesting + 1 else f.nesting
  (if f.negated then .complement s else s, f.depth own + 1)

end Frame

/-- Opens a bracket expression: a `^` negates, hyphens that come first are items, and so is a
closing bracket that comes first. -/
def openFrame (pieces : List Piece) : Frame × List Piece :=
  let (negated, pieces) := match pieces with
    | .bare '^' :: rest => (true, rest)
    | rest => (false, rest)
  let hyphens := pieces.takeWhile (· == .bare '-')
  let f := hyphens.foldl (fun f _ => f.add (.single '-') 0) { negated }
  match hyphens, pieces.drop hyphens.length with
  | [], .bare ']' :: rest => (f.add (.single ']') 0, rest)
  | _, rest => (f, rest)

/-- Reads `:name:]` or `:^name:]`, from behind the opening bracket. -/
def readNamedClass? : List Piece → Option (AsciiClass × Bool × List Piece)
  | .bare ':' :: rest =>
    let (negated, rest) := match rest with
      | .bare '^' :: rest => (true, rest)
      | rest => (false, rest)
    let letters := rest.takeWhile (· != .bare ':')
    let name := letters.filterMap fun
      | .bare c => some c
      | _ => none
    match rest.drop letters.length with
    | .bare ':' :: .bare ']' :: rest =>
      if name.length = letters.length then (AsciiClass.ofName? name).map (·, negated, rest)
      else none
    | _ => none
  | _ => none

def setOfEscape (ignoreCase : Bool) : Escape → CharSet
  | .set s => s
  | .property p negated =>
    let s := (CharSet.property p).underCase ignoreCase
    if negated then .complement s else s
  | _ => .nothing

def literal? : Piece → Option Char
  | .bare c => some c
  | .escaped c => some c
  | .named _ => none

/-- Whether a hyphen before these pieces makes a range of what is on both sides of it. -/
def continuesRange : List Piece → Bool
  | .bare ']' :: _ => false
  | .bare '-' :: _ => false
  | _ => true

/-- One item: a character or a class, or a range of characters. -/
def readItem? (ignoreCase : Bool) (piece : Piece) (rest : List Piece) :
    Option (CharSet × List Piece) :=
  match rest with
  | .bare '-' :: after =>
    if continuesRange after then
      match literal? piece, after with
      | some lo, last :: rest => do
        let hi ← literal? last
        if lo ≤ hi then some (.range lo hi, rest) else none
      | _, _ => none
    else some (item, rest)
  | _ => some (item, rest)
where
  item : CharSet :=
    match piece with
    | .bare c => .single c
    | .escaped c => .single c
    | .named e => setOfEscape ignoreCase e

/-- Reads items into the innermost of the open frames, up to where the outermost frame closes:
the set, how deep it nests, and what is left. -/
def readItems? (ignoreCase : Bool) :
    (fuel : Nat) → Frame → (outer : List Frame) → List Piece → Option (CharSet × Nat × List Piece)
  | 0, _, _, _ => none
  | _, _, _, [] => none
  | fuel + 1, f, outer, .bare '[' :: rest =>
    match readNamedClass? rest with
    | some (k, negated, rest) =>
      let s := (CharSet.ascii k).underCase ignoreCase
      readItems? ignoreCase fuel (f.add (if negated then .complement s else s) 0) outer rest
    | none =>
      let (inner, rest) := openFrame rest
      readItems? ignoreCase fuel inner (f :: outer) rest
  | fuel + 1, f, outer, .bare ']' :: rest =>
    let (s, depth) := f.close ignoreCase
    match outer with
    | [] => some (s, depth, rest)
    | parent :: outer => readItems? ignoreCase fuel (parent.add s depth) outer rest
  | fuel + 1, f, outer, .bare '&' :: .bare '&' :: rest =>
    readItems? ignoreCase fuel (f.operate ignoreCase .inter) outer rest
  | fuel + 1, f, outer, .bare '-' :: .bare '-' :: rest =>
    readItems? ignoreCase fuel (f.operate ignoreCase .diff) outer rest
  | fuel + 1, f, outer, .bare '~' :: .bare '~' :: rest =>
    readItems? ignoreCase fuel (f.operate ignoreCase .symmDiff) outer rest
  | fuel + 1, f, outer, piece :: rest => do
    let (s, rest) ← readItem? ignoreCase piece rest
    readItems? ignoreCase fuel (f.add s 0) outer rest

/-- The set at the beginning of some pieces, from behind its opening bracket. -/
def readSet? (ignoreCase : Bool) (pieces : List Piece) : Option (CharSet × Nat × List Piece) :=
  let (f, rest) := openFrame pieces
  readItems? ignoreCase (rest.length + 1) f [] rest

/-- The expressions for what is left of a bracket expression behind its set. Those that have been
read come last first. Groups and choices cannot be left over. -/
def readRest? (ignoreCase : Bool) : (fuel : Nat) → (before : List Expr) → List Piece →
    Option (List Expr)
  | 0, _, _ => none
  | _, before, [] => some before
  | fuel + 1, before, .bare '[' :: rest => do
    let (s, depth, rest) ← readSet? ignoreCase rest
    readRest? ignoreCase fuel (.set s depth :: before) rest
  | fuel + 1, before, .bare c :: rest =>
    let again (least : Nat) (most : Option Nat) : Option (List Expr) :=
      let (lazy, rest) := match rest with
        | .bare '?' :: rest => (true, rest)
        | rest => (false, rest)
      match before with
      | e :: before =>
        readRest? ignoreCase fuel ((Expr.repeated e least most (!lazy)) :: before) rest
      | [] => none
    match c with
    | '*' => again 0 none
    | '+' => again 1 none
    | '?' => again 0 (some 1)
    | '.' => readRest? ignoreCase fuel (.set (.complement (.single '\n')) 0 :: before) rest
    | '^' => readRest? ignoreCase fuel (.assertion .textStart :: before) rest
    | '$' => readRest? ignoreCase fuel (.assertion .textEnd :: before) rest
    | c =>
      if "()|\x7b".toList.contains c then none
      else readRest? ignoreCase fuel (.set (.ofChar ignoreCase c) 0 :: before) rest
  | fuel + 1, before, .escaped c :: rest =>
    readRest? ignoreCase fuel (.set (.ofChar ignoreCase c) 0 :: before) rest
  | fuel + 1, before, .named e :: rest =>
    readRest? ignoreCase fuel (.set (setOfEscape ignoreCase e) 0 :: before) rest

def toExpr? (ignoreCase : Bool) (pieces : List Piece) : Option Expr := do
  let (s, depth, rest) ← readSet? ignoreCase pieces
  if rest.isEmpty then some (.set s (if ignoreCase then depth + 1 else depth))
  else
    match ← readRest? ignoreCase (rest.length + 1) [.set s depth] rest with
    | [] => none
    | last :: before => some (.overrun ignoreCase (.ofSequence before.reverse) last)

end PatternAlgebra.Engine.Bracket
