import PatternAlgebra.Proofs.Matcher.Breakage
import PatternAlgebra.Proofs.Matcher.Tiling

/-! A matcher and its inverse. Between them they match each position of the target once: the
inversion of a stream swaps the roles of its regions, which cover the target without gaps, and a
matcher that shows nothing leaves the whole target to its inverse. Inverting twice gives the matches
back, whether the inversions are simplified or not. -/
namespace PatternAlgebra

open Fragment CharRange

namespace CharRange

def covers (r : CharRange) (p : ℕ) : Bool := r.start ≤ p && p < r.stop

lemma covers_eq_true_iff {r : CharRange} {p : ℕ} : r.covers p = true ↔ r.start ≤ p ∧ p < r.stop := by
  simp [covers]

/-- Each position of a stretch lies in just one of the ranges that cover it without gaps. -/
lemma Tiles.countP_covers {a b : ℕ} {rs : List CharRange} (h : Tiles a b rs) (p : ℕ) :
    rs.countP (·.covers p) = if a ≤ p ∧ p < b then 1 else 0 := by
  induction h with
  | nil a =>
    have hempty : ¬(a ≤ p ∧ p < a) := by omega
    rw [List.countP_nil, if_neg hempty]
  | @cons r b rs h ih =>
    have hr := r.start_le_stop
    have hle := h.le
    rw [List.countP_cons, ih]
    simp only [covers_eq_true_iff]
    split_ifs <;> omega

end CharRange

namespace Matcher

variable {m : Matcher} {t : Text} {fs : List (Fragment CharRange)}

lemma swapped_swapped (h : ∀ f ∈ fs, f.kind ≠ .group) : swapped (swapped fs) = fs := by
  induction fs with
  | nil => rfl
  | cons f fs ih =>
    obtain ⟨hf, hfs⟩ := List.forall_mem_cons.mp h
    cases f with
    | matched r => rw [swapped_matched, swapped_unmatched, ih hfs]
    | unmatched r => rw [swapped_unmatched, swapped_matched, ih hfs]
    | group r id => exact absurd rfl hf

/-- The matches of a stream and those of the swapped one are its regions. -/
lemma countP_matchedRanges_swapped (h : ∀ f ∈ fs, f.kind ≠ .group) (P : CharRange → Bool) :
    (matchedRanges fs).countP P + (matchedRanges (swapped fs)).countP P = (fs.map content).countP P := by
  induction fs with
  | nil => rfl
  | cons f fs ih =>
    obtain ⟨hf, hfs⟩ := List.forall_mem_cons.mp h
    have hrest := ih hfs
    cases f with
    | matched r =>
      simp only [matchedRanges_matched, swapped_matched, matchedRanges_unmatched, List.map_cons,
        content, List.countP_cons]
      omega
    | unmatched r =>
      simp only [matchedRanges_unmatched, swapped_unmatched, matchedRanges_matched, List.map_cons,
        content, List.countP_cons]
      omega
    | group r id => exact absurd rfl hf

/-- Swapping twice keeps the matches. A stream that shows nothing turns into one that shows an
unmatched target. -/
lemma matchedRanges_inverted_inverted (t : Text) (h : ∀ f ∈ fs, f.kind ≠ .group) :
    matchedRanges (inverted t (inverted t fs)) = matchedRanges fs := by
  cases fs with
  | nil => rfl
  | cons f fs =>
    have htwice := swapped_swapped h
    have hne : swapped (f :: fs) ≠ [] := by
      intro hnil
      rw [hnil] at htwice
      contradiction
    rw [inverted_of_ne_nil (List.cons_ne_nil f fs), inverted_of_ne_nil hne, htwice]

lemma matchedRanges_double_inversion (hm : ∀ script, m ≠ .scripted script) (t : Text) :
    matchedRanges ((inversion (inversion m)).ranges t .shallow) =
      matchedRanges (m.ranges t .shallow) := by
  rw [ranges_inversion_shallow, ranges_inversion_shallow]
  exact matchedRanges_inverted_inverted t fun _ hf => kind_of_mem_ranges_shallow hm hf

/-- The inverse of a matcher has the matches of its inversion, whichever way it is simplified. -/
lemma matchedRanges_inverse (h : ∀ script, m ≠ .inversion (.scripted script)) (t : Text) :
    matchedRanges (m.inverse.ranges t .shallow) =
      matchedRanges ((inversion m).ranges t .shallow) := by
  cases m with
  | nothing => rw [ranges_inversion_shallow, ranges_nothing, inverse, ranges_whole]; rfl
  | whole => rw [ranges_inversion_shallow, ranges_whole, inverse, ranges_nothing]; rfl
  | inversion c =>
    have hc : ∀ script, c ≠ .scripted script := fun script hc => h script (hc ▸ rfl)
    exact (matchedRanges_double_inversion hc t).symm
  | _ => rfl

lemma inverse_ne_scripted (h : ∀ script, m ≠ .inversion (.scripted script)) (script : Script) :
    m.inverse ≠ .scripted script := by
  intro hscript
  cases m with
  | inversion c => exact h script (congrArg inversion hscript)
  | _ => cases hscript

lemma Orderly.ne_inversion_scripted (h : Orderly t m) (script : Script) :
    m ≠ .inversion (.scripted script) := by
  rintro rfl
  cases h with
  | inversion h => exact h.not_scripted script rfl

lemma countP_covers_inverse (h : Orderly t m) (p : ℕ) :
    (matchedRanges (m.ranges t .shallow)).countP (·.covers p) +
        (matchedRanges ((inversion m).ranges t .shallow)).countP (·.covers p) =
      if p < t.length then 1 else 0 := by
  have hcover {rs : List CharRange} (htile : Tiles 0 t.length rs) :
      rs.countP (·.covers p) = if p < t.length then 1 else 0 := by
    simpa using htile.countP_covers p
  rw [ranges_inversion_shallow]
  by_cases hnone : m.ranges t .shallow = []
  · -- a matcher that shows nothing leaves all of the target to its inverse
    rw [hnone, matchedRanges_nil, List.countP_nil, Nat.zero_add]
    exact hcover (tiles_whole t)
  · have hm : ∀ r, m = .regex r → r.program.events t ≠ [] := by
      rintro r rfl hevents
      exact hnone (List.map_eq_nil_iff.mp (regions_regex_of_no_match hevents))
    rw [inverted_of_ne_nil hnone,
      countP_matchedRanges_swapped fun _ hf => kind_of_mem_ranges_shallow h.not_scripted hf]
    exact hcover (tiles_regions h hm)

/-- A matcher and its inverse show matches alone, and each position of the target lies in just one
of them. Neither search is broken off if no regular expression breaks off. -/
theorem inverse_partitions_target (h : Orderly t m) (p : ℕ) :
    let shown := m.matchRanges t ++ m.inverse.matchRanges t
    (∀ f ∈ shown, f.kind = .matched) ∧
      (shown.countP (·.content.covers p) = if p < t.length then 1 else 0) ∧
      (Steady t m → m.breaksOff t (.matches .matchesOnly) = false ∧
        m.inverse.breaksOff t (.matches .matchesOnly) = false) := by
  intro shown
  have hshown : shown = (matchedRanges (m.ranges t .shallow) ++
      matchedRanges ((inversion m).ranges t .shallow)).map .matched := by
    rw [← matchedRanges_inverse h.ne_inversion_scripted, List.map_append,
      ← matchRanges_eq_map h.not_scripted,
      ← matchRanges_eq_map (inverse_ne_scripted h.ne_inversion_scripted)]
  rw [hshown]
  refine ⟨?_, ?_, fun hsteady => ⟨?_, ?_⟩⟩
  · intro f hf
    obtain ⟨r, -, rfl⟩ := List.mem_map.mp hf
    rfl
  · rw [List.countP_map, List.countP_append]
    exact countP_covers_inverse h p
  · exact hsteady.breaksOff_eq_false (by simp)
  · rw [breaksOff, hsteady.iterateBreaks_inverse, Bool.and_false]

/-- The second position of `aba` is left to the inversion of `a`. -/
theorem inverse_partitions_target_letter :
    let m := regex (.letter 'a')
    Orderly ['a', 'b', 'a'] m ∧ Steady ['a', 'b', 'a'] m ∧
      m.matchRanges ['a', 'b', 'a'] = [.matched (.ofBounds 0 1), .matched (.ofBounds 2 3)] ∧
      (m.matchRanges ['a', 'b', 'a'] ++ m.inverse.matchRanges ['a', 'b', 'a']).countP
        (·.content.covers 1) = 1 ∧
      m.inverse.breaksOff ['a', 'b', 'a'] (.matches .matchesOnly) = false := by
  intro m
  have h : Orderly ['a', 'b', 'a'] m := .regex (Regex.inOrder_of_not_canStepBack rfl _)
  have hsteady : Steady ['a', 'b', 'a'] m := .of_not_canBreak rfl _
  obtain ⟨-, hcount, hreturns⟩ := inverse_partitions_target h 1
  exact ⟨h, hsteady, by cbv, hcount, (hreturns hsteady).2⟩

/-! ### Inverting twice -/

lemma matchedRanges_inverse_inverse
    (h : ∀ script, m ≠ .inversion (.inversion (.scripted script))) (t : Text) :
    matchedRanges (m.inverse.inverse.ranges t .shallow) = matchedRanges (m.ranges t .shallow) := by
  cases m with
  | inversion c => exact matchedRanges_inverse (fun script hc => h script (congrArg inversion hc)) t
  | _ => rfl

lemma inverse_inverse_ne_scripted (hm : ∀ script, m ≠ .scripted script)
    (h : ∀ script, m ≠ .inversion (.inversion (.scripted script))) (script : Script) :
    m.inverse.inverse ≠ .scripted script := by
  cases m with
  | inversion c => exact inverse_ne_scripted (fun script hc => h script (congrArg inversion hc)) script
  | scripted s => exact absurd rfl (hm s)
  | _ => rintro ⟨⟩

/-- Inverting twice gives the same matches as not inverting, whatever the limit, both where every
inversion is kept and where they are simplified. None of the three searches is broken off if no
regular expression breaks off. -/
theorem matchRangesWith_double_inverse (hm : ∀ script, m ≠ .scripted script)
    (hinversion : ∀ script, m ≠ .inversion (.inversion (.scripted script))) (t : Text)
    (limit : Option ℕ) (payload : Option Text) :
    let selection : Selection := { kinds := .matchedOnly, limit, payload }
    (inversion (inversion m)).matchRangesWith t selection = m.matchRangesWith t selection ∧
      m.inverse.inverse.matchRangesWith t selection = m.matchRangesWith t selection ∧
      (Steady t m → (inversion (inversion m)).breaksOff t (.matches selection) = false ∧
        m.inverse.inverse.breaksOff t (.matches selection) = false ∧
        m.breaksOff t (.matches selection) = false) := by
  intro selection
  have hsame {n : Matcher} (hn : ∀ script, n ≠ .scripted script)
      (heq : matchedRanges (n.ranges t .shallow) = matchedRanges (m.ranges t .shallow)) :
      n.matchRangesWith t selection = m.matchRangesWith t selection := by
    rw [matchRangesWith_matchedOnly hn, matchRangesWith_matchedOnly hm, heq]
  have hscripted := inverse_inverse_ne_scripted hm hinversion
  refine ⟨hsame (by simp) (matchedRanges_double_inversion hm t),
    hsame hscripted (matchedRanges_inverse_inverse hinversion t), fun hsteady => ⟨?_, ?_, ?_⟩⟩
  · rw [breaksOff, hsteady.iterateBreaks_double_inversion, Bool.and_false]
  · rw [breaksOff, hsteady.iterateBreaks_double_inverse, Bool.and_false]
  · exact hsteady.breaksOff_eq_false (by simp)

/-- The first gap of `b` in `aba` is what inverting it three times shows with a limit of one. -/
theorem matchRangesWith_double_inverse_letter :
    let m := inversion (regex (.letter 'b'))
    let selection : Selection := { kinds := .matchedOnly, limit := some 1 }
    Steady ['a', 'b', 'a'] m ∧
      (inversion (inversion m)).matchRangesWith ['a', 'b', 'a'] selection = [.matched (.ofBounds 0 1)] ∧
      m.inverse.inverse.matchRangesWith ['a', 'b', 'a'] selection = [.matched (.ofBounds 0 1)] ∧
      (inversion (inversion m)).breaksOff ['a', 'b', 'a'] (.matches selection) = false := by
  intro m selection
  have hsteady : Steady ['a', 'b', 'a'] m := .inversion fun u _ => .of_not_canBreak rfl u
  have hfirst : m.matchRangesWith ['a', 'b', 'a'] selection = [.matched (.ofBounds 0 1)] := by cbv
  obtain ⟨hplain, hsimplified, hreturns⟩ :=
    matchRangesWith_double_inverse (m := m) (by simp [m]) (by simp [m]) ['a', 'b', 'a'] (some 1) none
  exact ⟨hsteady, hplain.trans hfirst, hsimplified.trans hfirst, (hreturns hsteady).1⟩

end Matcher

end PatternAlgebra
