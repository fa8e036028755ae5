import PatternAlgebra.Engine.Lexeme
import PatternAlgebra.Engine.Plan.Basic

/-!
# Assembly of expressions

A grammar becomes an expression lexeme by lexeme. An `Assembly` holds what has been read: the
group being read, the groups around it, and the last atom, which waits for a repetition. Each
lexeme is one step; a step without an answer rejects the grammar.
-/
namespace PatternAlgebra.Engine

/-- What a group or a single lexeme contributes. Alternatives stay apart until their group is
complete. -/
inductive Part where
  | nothing
  | atom (e : Expr) (repeatable : Bool)
  | choice (branches : List Expr)
  deriving DecidableEq, Repr

namespace Part

def branches : Part → List Expr
  | nothing => [.empty]
  | atom e _ => [e]
  | choice es => es

def expr (p : Part) : Expr := Expr.ofAlternatives p.branches

def repeatable : Part → Bool
  | nothing => false
  | atom _ r => r
  | choice _ => true

def ofSequence : List Part → Part
  | [] => nothing
  | [p] => p
  | ps => atom (Expr.ofSequence (ps.map expr)) true

end Part

/-- The last thing read in a branch, as long as more may be said about it. -/
inductive Pending where
  | none
  | ready (p : Part)
  /-- A repetition, and whether it has been marked lazy. -/
  | counted (body : Expr) (least : Nat) (most : Option Nat) (marked : Bool)
  deriving DecidableEq, Repr

inductive FrameKind where
  | root
  | capture (index : Nat)
  | scope (restored : SyntaxFlags)
  | atomic
  | ahead (negated : Bool)
  | behind (negated : Bool)
  | condition
  /-- The branches behind a condition, and how long the rest of the grammar was at their start. -/
  | choice (condition : Part) (length : Nat)
  deriving DecidableEq, Repr

/-- A group that is being read. `branches` and `parts` hold the finished alternatives and the
parts of the current one, both last first. -/
structure Frame where
  kind : FrameKind
  branches : List Expr := []
  parts : List Part := []
  pending : Pending := .none
  deriving DecidableEq, Repr

structure Assembly where
  flags : SyntaxFlags := {}
  groups : Nat := 0
  /-- The numbers of the named groups, last first. -/
  names : List (Text × Nat) := []
  /-- Whether a group has been referred to by number. -/
  numbered : Bool := false
  frame : Frame := { kind := .root }
  outer : List Frame := []
  deriving DecidableEq, Repr

namespace Frame

def push (f : Frame) : Part → Frame
  | .nothing => { f with pending := .none }
  | p => { f with parts := p :: f.parts, pending := .none }

/-- Nothing more is said about the last atom. -/
def settle (swapGreed : Bool) (f : Frame) : Frame :=
  match f.pending with
  | .none => f
  | .ready p => f.push p
  | .counted body least most marked =>
    f.push (.atom (.repeated body least most (marked == swapGreed)) true)

/-- The branch that is being read, once it is settled. -/
def branch (f : Frame) : Part := Part.ofSequence f.parts.reverse

def endBranch (f : Frame) : Frame :=
  { f with branches := f.branch.expr :: f.branches, parts := [] }

/-- The content of a group, once its last branch is settled. -/
def content (f : Frame) : Part :=
  if f.branches.isEmpty then f.branch
  else .choice (f.branch.expr :: f.branches).reverse

end Frame

namespace Assembly

def depthLimit : Nat := 64

def settle (a : Assembly) : Assembly := { a with frame := a.frame.settle a.flags.swapGreed }

def await (a : Assembly) (p : Part) : Assembly :=
  let a := a.settle
  { a with frame := { a.frame with pending := .ready p } }

def awaitExpr (a : Assembly) (e : Expr) : Assembly := a.await (.atom e true)

/-- Reads a set whose notation says itself whether it ignores case. -/
def awaitSet (a : Assembly) (s : CharSet) : Assembly := a.awaitExpr (.set s 0)

/-- Reads a set that ignores case where the grammar does. -/
def awaitFolding (a : Assembly) (s : CharSet) : Assembly :=
  a.awaitExpr (.set s (if a.flags.ignoreCase then 1 else 0))

def afterAtom (a : Assembly) : Bool :=
  match a.frame.pending with
  | .ready _ => true
  | _ => false

/-- Reads how often the last atom repeats. -/
def count? (a : Assembly) (least : Nat) (most : Option Nat) : Option Assembly :=
  match a.frame.pending with
  | .ready p =>
    if p.repeatable then
      some { a with frame := { a.frame with pending := .counted p.expr least most false } }
    else none
  | _ => none

/-- Reads a question mark: behind a repetition it makes it lazy, else it is one. -/
def question? (a : Assembly) : Option Assembly :=
  match a.frame.pending with
  | .counted body least most false =>
    some { a with frame := { a.frame with pending := .counted body least most true } }
  | _ => a.count? 0 (some 1)

/-- Reads a plus sign: behind a repetition it forbids giving back, else it is one. -/
def plus? (a : Assembly) : Option Assembly :=
  match a.frame.pending with
  | .counted body least most marked =>
    let e := Expr.repeated body least most (marked == a.flags.swapGreed)
    some { a with frame := a.frame.push (.atom (.atomic e) true) }
  | _ => a.count? 1 none

/-- Blanks end the marks behind a repetition, but not what may mark it first. -/
def afterBlanks (a : Assembly) : Assembly :=
  match a.frame.pending with
  | .counted _ _ _ true => a.settle
  | _ => a

def hasDepth (a : Assembly) : Bool := a.outer.length + 1 < depthLimit

def enter? (a : Assembly) (kind : FrameKind) : Option Assembly :=
  let a := a.settle
  if a.hasDepth then some { a with frame := { kind }, outer := a.frame :: a.outer } else none

def resolve? (a : Assembly) (ref : GroupRef) : Option Nat := do
  let n ← match ref with
    | .number n => some n
    | .back n => if n ≤ a.groups + 1 then some (a.groups + 1 - n) else none
    | .name name =>
      match a.names.lookup name with
      | some n => some n
      | none =>
        match Text.readDecimal? name with
        | some (n, []) => some n
        | _ => none
  if n ≤ a.groups then some n else none

/-- Resolves a reference. One by number must be below `bound`, and is noted. -/
def refer? (a : Assembly) (bound : Nat) (ref : GroupRef) : Option (Nat × Assembly) := do
  let n ← a.resolve? ref
  match ref with
  | .number n => if n < bound then some (n, { a with numbered := true }) else none
  | _ => some (n, a)

def escape? (a : Assembly) (bound : Nat) : Escape → Option Assembly
  | .char c => some (a.awaitSet (.single c))
  | .codePoint c => some (a.awaitFolding (.ofChar a.flags.ignoreCase c))
  | .set .hexDigit => some (a.awaitExpr (.set .hexDigit 1))
  | .set (.complement .hexDigit) => some (a.awaitExpr (.set (.complement .hexDigit) 1))
  | .set s => some (a.awaitFolding s)
  | .property p negated =>
    some (a.awaitFolding (Bracket.setOfEscape a.flags.ignoreCase (.property p negated)))
  | .assertion .searchStart => some (a.awaitExpr (.assertion .searchStart))
  | .assertion x => some (a.await (.atom (.assertion x) false))
  | .keep => some (a.awaitExpr .keep)
  | .backref ref => do
    let (n, a) ← a.refer? bound ref
    some (a.awaitExpr (.backref n))

/-- Opens a group, behind which the rest of the grammar has the given length. -/
def open? (a : Assembly) (bound length : Nat) : Opener → Option Assembly
  | .capture none => do
    let a ← a.enter? (.capture (a.groups + 1))
    some { a with groups := a.groups + 1 }
  | .capture (some name) => do
    let n := a.groups + 1
    let a ← a.enter? (.capture n)
    some { a with groups := n, names := (name, n) :: a.names }
  | .atomic => a.enter? .atomic
  | .ahead negated => a.enter? (.ahead negated)
  | .behind negated => a.enter? (.behind negated)
  | .choice ref => do
    let (n, a) ← a.refer? bound ref
    a.enter? (.choice (.atom (.participated n) true) length)
  | .reference name =>
    if a.hasDepth then do
      let n ← a.resolve? (.name name)
      some (a.awaitExpr (.backref n))
    else none
  | .condition => a.enter? .condition
  | .scope changes => do
    let a := a.settle
    let inner ← a.enter? (.scope a.flags)
    some { inner with flags := changes.foldl SyntaxFlags.put inner.flags }

/-- A lookbehind. Alternatives that are not all of one size are looked for one by one: one of them
must hold, or none of them. -/
def lookbehind (negated : Bool) (content : Part) : Part :=
  match content with
  | .choice branches =>
    if content.expr.isFixed then .atom (.behind negated content.expr) false
    else
      let looks := branches.map (.behind negated)
      .atom (if negated then Expr.ofSequence looks else Expr.ofAlternatives looks) false
  | _ => .atom (.behind negated content.expr) false

/-- A choice between the first branch of `body` and the others. A choice on a group may have no
body; without anything to match it is the condition itself. -/
def choose? (condition body : Part) (isBare : Bool) : Option Part :=
  match condition with
  | .atom (.participated _) _ =>
    some chosen
  | _ => if isBare then none else some chosen
where
  chosen : Part :=
    let yes := body.branches.headD .empty
    let no := Expr.ofAlternatives body.branches.tail
    if yes = .empty ∧ no = .empty then condition
    else .atom (.conditional condition.expr yes no) true

/-- The whole content of the innermost group. A group without alternatives, whose content is read
when both kinds of reference are in use, rejects the grammar. -/
def content? (a : Assembly) : Option Part :=
  let a := a.settle
  if a.frame.branches.isEmpty && a.numbered && !a.names.isEmpty then none
  else some a.frame.content

/-- Leaves the innermost group, behind which the rest of the grammar has the given length. -/
def close? (a : Assembly) (length : Nat) : Option Assembly := do
  let content ← a.content?
  match a.outer with
  | [] => none
  | parent :: outer =>
    let back (flags : SyntaxFlags) (p : Part) : Assembly :=
      { a with flags, frame := { parent with pending := .ready p }, outer }
    match a.frame.kind with
    | .root => none
    | .capture n => some (back a.flags (.atom (.group n content.expr) true))
    | .scope flags => some (back flags content)
    | .atomic => some (back a.flags (.atom (.atomic content.expr) true))
    | .ahead negated => some (back a.flags (.atom (.ahead negated content.expr) false))
    | .behind negated => some (back a.flags (lookbehind negated content))
    | .condition =>
      let condition := match content with
        | .atom (.backref n) r => .atom (.participated n) r
        | p => p
      some { a with frame := { kind := .choice condition length } }
    | .choice condition start => (choose? condition content (length + 1 == start)).map (back a.flags)

/-- Reads a lexeme, behind which `rest` is what is left of the grammar. -/
def step? (a : Assembly) (bound : Nat) (rest : Text) : Lexeme → Option Assembly
  | .char c => some (a.awaitFolding (.ofChar a.flags.ignoreCase c))
  | .escape e => a.escape? bound e
  | .dot =>
    if a.flags.dotMatchesNewLine then some (a.awaitExpr (.set .anything 1))
    else some (a.awaitSet (.complement (.single '\n')))
  | .caret =>
    some (a.await (.atom (.assertion (if a.flags.multiLine then .lineStart else .textStart)) false))
  | .dollar =>
    some (a.await (.atom (.assertion (if a.flags.multiLine then .lineEnd else .textEnd)) false))
  | .bracket pieces => (Bracket.toExpr? a.flags.ignoreCase pieces).map a.awaitExpr
  | .opener o => a.open? bound rest.length o
  | .directive changes =>
    if a.hasDepth then
      let a := a.await .nothing
      some { a with flags := changes.foldl SyntaxFlags.put a.flags }
    else none
  | .close => a.close? rest.length
  | .bar =>
    let a := a.settle
    some { a with frame := a.frame.endBranch }
  | .question => a.question?
  | .plus => a.plus?
  | .star => a.count? 0 none
  | .braces least most => a.count? least most

def finish? (a : Assembly) : Option Expr :=
  match a.outer with
  | [] => a.content?.map Part.expr
  | _ :: _ => none

/-- Reads the rest of a grammar. References by number must be below `bound`. Each step reads at
least one character. -/
def read? (bound : Nat) : (fuel : Nat) → Assembly → Text → Option Assembly
  | 0, _, _ => none
  | fuel + 1, a, t => do
    let rest ← Lexeme.skip? a.flags.extended t
    let a := if Lexeme.beginsWithBlank a.flags.extended t then a.afterBlanks else a
    if rest.isEmpty then some a
    else
      let (lexeme, rest) ← Lexeme.next? a.flags.extended a.afterAtom rest
      let a ← a.step? bound rest lexeme
      read? bound fuel a rest

end Assembly

end PatternAlgebra.Engine
