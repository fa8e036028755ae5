import Mathlib
import PatternAlgebra.Engine.Assembly

/-! Reading one lexeme of a grammar. -/
namespace PatternAlgebra.Engine.Assembly

variable {a b : Assembly} {bound fuel : Nat} {t rest : Text} {lexeme : Lexeme}

lemma read?_nil (bound fuel : ℕ) (a : Assembly) : read? bound (fuel + 1) a [] = some a := rfl

/-- Where no blanks come first, reading goes on behind the next lexeme. -/
lemma read?_lexeme (hblank : Lexeme.beginsWithBlank a.flags.extended t = false)
    (hnext : Lexeme.next? a.flags.extended a.afterAtom t = some (lexeme, rest))
    (hstep : a.step? bound rest lexeme = some b) :
    read? bound (fuel + 1) a t = read? bound fuel b rest := by
  have hne : t.isEmpty = false := by
    cases t with
    | nil => cases hnext
    | cons c t => rfl
  have hskip : Lexeme.skip? a.flags.extended t = some t := by simp [Lexeme.skip?, hblank]
  rw [read?, hskip]
  simp only [hblank, hne, hnext, hstep, Option.bind_eq_bind, Option.bind_some, Bool.false_eq_true,
    if_false]

end PatternAlgebra.Engine.Assembly
