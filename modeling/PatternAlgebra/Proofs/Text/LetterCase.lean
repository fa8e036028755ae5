import Mathlib
import PatternAlgebra.Text.LetterCase

/-! Where runs of letters lead. A character that lies in no run's image is the image of itself alone. -/
namespace PatternAlgebra

/-- Whether a code point lies outside the image of a run. -/
def CaseRun.Misses (run : CaseRun) (m : ℕ) : Prop :=
  m < run.target ∨ run.target + (run.last - run.first) < m

instance (run : CaseRun) (m : ℕ) : Decidable (run.Misses m) := inferInstanceAs (Decidable (_ ∨ _))

variable {runs : List CaseRun} {c d : Char}

lemma CaseRun.Misses.image_ne {run : CaseRun} {n m : ℕ} (h : run.Misses m)
    (hn : run.covers n = true) : run.image n ≠ m := by
  simp only [covers, Bool.and_eq_true, decide_eq_true_eq] at hn
  unfold Misses at h
  unfold image
  omega

/-- Only itself is mapped to a character that every run misses. -/
lemma eq_of_mapThrough (hd : d.toNat ≠ 0) (hruns : ∀ run ∈ runs, run.Misses d.toNat)
    (h : mapThrough runs c = d) : c = d := by
  unfold mapThrough at h
  cases hfind : runs.find? (·.covers c.toNat) with
  | none => simpa [hfind] using h
  | some run =>
    have hcovers := List.find?_some hfind
    have hne := (hruns run (List.mem_of_find?_eq_some hfind)).image_ne hcovers
    rw [hfind] at h
    have hnat : (Char.ofNat (run.image c.toNat)).toNat = d.toNat := congrArg Char.toNat h
    rw [Char.toNat_ofNat] at hnat
    split_ifs at hnat <;> omega

lemma not_mem_lowerCaseText (hd : d.toNat ≠ 0) (hpair : d ∉ ['i', '\u0307'])
    (hruns : ∀ run ∈ lowerRuns ++ lowerOnlyRuns, run.Misses d.toNat) {t : List Char} (h : d ∉ t) :
    d ∉ lowerCaseText t := by
  intro hmem
  obtain ⟨c, hc, hd'⟩ := List.mem_flatMap.mp hmem
  unfold lowerCase at hd'
  split_ifs at hd' with hdotted
  · exact hpair hd'
  · have hcd := eq_of_mapThrough hd hruns (List.mem_singleton.mp hd').symm
    exact h (hcd ▸ hc)

end PatternAlgebra
