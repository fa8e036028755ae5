import PatternAlgebra.Matcher.Handle

/-!
# Formulas

A formula says how a matcher is put together from leaves and named handles. Building it makes the
handles of all its parts; `matcher` is the matcher that results when no name occurs.
-/
namespace PatternAlgebra

inductive Formula where
  | leaf (m : Matcher)
  | named (name : Text)
  | inverse (f : Formula)
  /-- An inversion without simplification. -/
  | invert (f : Formula)
  | and (f g : Formula)
  | or (f g : Formula)
  | allOf (fs : List Formula)
  | anyOf (fs : List Formula)
  deriving Repr

namespace Formula

mutual

/-- The handle of a formula, where `env` gives the named ones. -/
def build (env : Text → Option Handle) : Formula → OptionT (StateM Nat) Handle
  | leaf m => liftM (Handle.make m)
  | named name => OptionT.mk (pure (env name))
  | inverse f => do
    let h ← build env f
    liftM h.inverse
  | invert f => do
    let h ← build env f
    liftM h.invert
  | and f g => do
    let h ← build env f
    let k ← build env g
    liftM (h.and k)
  | or f g => do
    let h ← build env f
    let k ← build env g
    liftM (h.or k)
  | allOf fs => do
    let hs ← buildEach env fs
    liftM (Handle.allOf hs)
  | anyOf fs => do
    let hs ← buildEach env fs
    liftM (Handle.anyOf hs)

def buildEach (env : Text → Option Handle) : List Formula → OptionT (StateM Nat) (List Handle)
  | [] => pure []
  | f :: fs => do
    let h ← build env f
    let hs ← buildEach env fs
    pure (h :: hs)

end

mutual

/-- The matcher of a formula, with nothing for a name. -/
def matcher : Formula → Matcher
  | leaf m => m
  | named _ => .nothing
  | inverse f => (matcher f).inverse
  | invert f => .inversion (matcher f)
  | and f g => (matcher f).and (matcher g)
  | or f g => (matcher f).or (matcher g)
  | allOf fs => .allOf (matcherEach fs)
  | anyOf fs => .anyOf (matcherEach fs)

def matcherEach : List Formula → List Matcher
  | [] => []
  | f :: fs => matcher f :: matcherEach fs

end

end Formula

end PatternAlgebra
