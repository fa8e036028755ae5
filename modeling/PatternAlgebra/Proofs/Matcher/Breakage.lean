import PatternAlgebra.Matcher.Breakage
import PatternAlgebra.Proofs.Matcher.Algebra

/-! Searches that are not broken off. A matcher asks its regular expressions about the target, and
those inside inversions about the ends of it as well. Where none of these searches is broken off,
none of the matcher's own is. -/
namespace PatternAlgebra

/-- What breaks the search for the first match off breaks the search for all of them off. -/
lemma Engine.Program.breaksAtFirst_eq_false {p : Program} {t : Text} (h : p.breaksAtLast t = false) :
    p.breaksAtFirst t = false := by
  rw [breaksAtFirst]
  cases hsearch : p.search t.toArray 0 with
  | broken => simpa [breaksAtLast, searchText, searchAll, hsearch, Answer.isBroken] using h
  | _ => simp [Answer.isBroken]

lemma Regex.breaksAtLast_eq_false {r : Regex} (h : r.canBreak = false) (t : Text) :
    r.program.breaksAtLast t = false := by
  rw [Engine.Program.breaksAtLast, (Bool.or_eq_false_iff.mp h).1, Bool.false_and]

namespace Matcher

/-- A matcher that is made of the library's own parts, with regular expressions of which none breaks
the search of a text off. Those inside inversions search the ends of the text as well. -/
inductive Steady : Text → Matcher → Prop
  | regex {t : Text} {r : Regex} (h : r.program.breaksAtLast t = false) : Steady t (.regex r)
  | nothing (t : Text) : Steady t .nothing
  | whole (t : Text) : Steady t .whole
  | conjunction {t : Text} {ms : List Matcher} (h : ∀ m ∈ ms, Steady t m) : Steady t (.conjunction ms)
  | disjunction {t : Text} {ms : List Matcher} (h : ∀ m ∈ ms, Steady t m) : Steady t (.disjunction ms)
  | inversion {t : Text} {m : Matcher} (h : ∀ u, u <:+ t → Steady u m) : Steady t (.inversion m)

variable {t : Text} {m n : Matcher} {ms : List Matcher}

lemma locateAllBreaks_eq_false (h : ∀ m ∈ ms, m.locateBreaks t = false) :
    locateAllBreaks ms t = false := by
  induction ms with
  | nil => rw [locateAllBreaks]
  | cons m ms ih =>
    obtain ⟨hm, hms⟩ := List.forall_mem_cons.mp h
    rw [locateAllBreaks, hm, ih hms, Bool.and_false, Bool.or_false]

lemma locateAnyBreaks_eq_false (h : ∀ m ∈ ms, m.locateBreaks t = false) :
    locateAnyBreaks ms t = false := by
  induction ms with
  | nil => rw [locateAnyBreaks]
  | cons m ms ih =>
    obtain ⟨hm, hms⟩ := List.forall_mem_cons.mp h
    rw [locateAnyBreaks, hm, ih hms, Bool.or_false]

lemma anyHasBreaks_eq_false (h : ∀ m ∈ ms, m.hasBreaks t = false) :
    anyHasBreaks ms t = false := by
  induction ms with
  | nil => rw [anyHasBreaks]
  | cons m ms ih =>
    obtain ⟨hm, hms⟩ := List.forall_mem_cons.mp h
    rw [anyHasBreaks, hm, ih hms, Bool.and_false, Bool.or_false]

lemma keepBreaks_eq_false (selection : Selection)
    (h : ∀ m ∈ ms, m.iterateBreaks t selection Union.keeper [] = false) :
    keepBreaks ms t selection = false := by
  induction ms with
  | nil => rw [keepBreaks]
  | cons m ms ih =>
    obtain ⟨hm, hms⟩ := List.forall_mem_cons.mp h
    rw [keepBreaks, hm, ih hms, Bool.or_false]

namespace Steady

lemma of_not_canBreak {r : Regex} (h : r.canBreak = false) (t : Text) : Steady t (.regex r) :=
  .regex (r.breaksAtLast_eq_false h t)

lemma child_conjunction (h : Steady t (.conjunction ms)) : ∀ m ∈ ms, Steady t m := by
  cases h with
  | conjunction h => exact h

lemma child_disjunction (h : Steady t (.disjunction ms)) : ∀ m ∈ ms, Steady t m := by
  cases h with
  | disjunction h => exact h

lemma slice_to_end_isSuffix (t : Text) (start : ℕ) :
    (CharRange.ofBounds start t.length).slice t <:+ t := by
  have htake : (t.drop start).length ≤ max start t.length - start := by
    rw [List.length_drop]
    omega
  rw [CharRange.slice_eq_take_drop]
  exact (List.take_of_length_le htake).symm ▸ List.drop_suffix start t

lemma locateBreaks (h : Steady t m) : m.locateBreaks t = false := by
  induction h with
  | regex h => rw [Matcher.locateBreaks]; exact Engine.Program.breaksAtFirst_eq_false h
  | nothing => rw [Matcher.locateBreaks]
  | whole => rw [Matcher.locateBreaks]
  | conjunction _ ih => rw [Matcher.locateBreaks, locateAllBreaks_eq_false ih]
  | disjunction _ ih => rw [Matcher.locateBreaks, locateAnyBreaks_eq_false ih]
  | @inversion t m _ ih =>
    rw [Matcher.locateBreaks, ih t (List.suffix_refl t), Bool.false_or]
    split
    · rw [ih _ (slice_to_end_isSuffix t _), Bool.and_false]
    · rfl

lemma hasBreaks (h : Steady t m) : m.hasBreaks t = false := by
  have hother {m : Matcher} (h : Steady t m) (hm : ∀ ms, m ≠ .disjunction ms) :
      m.hasBreaks t = false := by
    rw [Matcher.hasBreaks]
    · exact h.locateBreaks
    · exact hm
  induction m with
  | disjunction ms ih =>
    rw [Matcher.hasBreaks, anyHasBreaks_eq_false fun m hm => ih m hm (h.child_disjunction m hm)]
  | _ => exact hother h (by simp)

lemma iterateBreaks {σ : Type} (h : Steady t m) (selection : Selection) (visit : Visitor σ) (s : σ) :
    m.iterateBreaks t selection visit s = false := by
  induction h generalizing σ selection with
  | regex h => simp [Matcher.iterateBreaks, Regex.iterateBreaks, h]
  | nothing => rw [Matcher.iterateBreaks]
  | whole => rw [Matcher.iterateBreaks]
  | conjunction h ih =>
    rw [Matcher.iterateBreaks, (conjunction h).hasBreaks,
      keepBreaks_eq_false _ fun m hm => ih m hm _ _ _, Bool.and_false, Bool.or_false]
  | disjunction h ih =>
    rw [Matcher.iterateBreaks, (disjunction h).hasBreaks,
      keepBreaks_eq_false _ fun m hm => ih m hm _ _ _, Bool.and_false, Bool.or_false]
  | @inversion t m _ ih => rw [Matcher.iterateBreaks, ih t (List.suffix_refl t), Bool.and_false]

/-- No request about a text breaks off. A replacement is another matter, as it asks about the texts
that it makes. -/
lemma breaksOff_eq_false (h : Steady t m) {request : Request}
    (hrequest : ∀ template, request ≠ .replace template) : m.breaksOff t request = false := by
  cases request with
  | locate => rw [breaksOff, h.locateBreaks, Bool.and_false]
  | hasMatches => rw [breaksOff, h.hasBreaks, Bool.and_false]
  | replace template => exact absurd rfl (hrequest template)
  | _ => rw [breaksOff, h.iterateBreaks, Bool.and_false]

lemma source (h : Steady t (.inversion m)) : Steady t m := by
  cases h with
  | inversion h => exact h t (List.suffix_refl t)

/-- The stream of an inversion takes no more than that of its source. -/
lemma iterateBreaks_inversion {σ : Type} (h : Steady t m) (selection : Selection) (visit : Visitor σ)
    (s : σ) : m.inversion.iterateBreaks t selection visit s = false := by
  rw [Matcher.iterateBreaks, h.iterateBreaks, Bool.and_false]

lemma iterateBreaks_inverse {σ : Type} (h : Steady t m) (selection : Selection) (visit : Visitor σ)
    (s : σ) : m.inverse.iterateBreaks t selection visit s = false := by
  cases m with
  | nothing => exact (Steady.whole t).iterateBreaks selection visit s
  | whole => exact (Steady.nothing t).iterateBreaks selection visit s
  | inversion c => exact h.source.iterateBreaks selection visit s
  | _ => exact h.iterateBreaks_inversion selection visit s

lemma iterateBreaks_double_inversion {σ : Type} (h : Steady t m) (selection : Selection)
    (visit : Visitor σ) (s : σ) : m.inversion.inversion.iterateBreaks t selection visit s = false := by
  rw [Matcher.iterateBreaks, h.iterateBreaks_inversion, Bool.and_false]

lemma iterateBreaks_double_inverse {σ : Type} (h : Steady t m) (selection : Selection)
    (visit : Visitor σ) (s : σ) : m.inverse.inverse.iterateBreaks t selection visit s = false := by
  cases m with
  | inversion c => exact h.source.iterateBreaks_inverse selection visit s
  | _ => exact h.iterateBreaks selection visit s

lemma allOf (h : ∀ m ∈ ms, Steady t m) : Steady t (.allOf ms) := by
  refine .conjunction fun c hc => ?_
  obtain ⟨m, hm, hc⟩ := List.mem_flatMap.mp hc
  exact forall_mem_conjuncts (fun _ => child_conjunction) (h m hm) c hc

lemma anyOf (h : ∀ m ∈ ms, Steady t m) : Steady t (.anyOf ms) := by
  refine .disjunction fun c hc => ?_
  obtain ⟨m, hm, hc⟩ := List.mem_flatMap.mp hc
  exact forall_mem_disjuncts (fun _ => child_disjunction) (h m hm) c hc

lemma and (hm : Steady t m) (hn : Steady t n) : Steady t (m.and n) := by
  have hall : Steady t (.allOf [m, n]) := .allOf (by simp [hm, hn])
  cases m with
  | nothing => exact .nothing t
  | whole => exact hn
  | _ => exact hall

lemma or (hm : Steady t m) (hn : Steady t n) : Steady t (m.or n) := by
  have hany : Steady t (.anyOf [m, n]) := .anyOf (by simp [hm, hn])
  cases m with
  | nothing => exact hn
  | whole => exact .whole t
  | _ => exact hany

lemma foldl {combine : Matcher → Matcher → Matcher}
    (hcombine : ∀ {m n : Matcher}, Steady t m → Steady t n → Steady t (combine m n))
    (hm : Steady t m) (h : ∀ c ∈ ms, Steady t c) : Steady t (ms.foldl combine m) := by
  induction ms generalizing m with
  | nil => exact hm
  | cons n ms ih =>
    obtain ⟨hn, hms⟩ := List.forall_mem_cons.mp h
    exact ih (hcombine hm hn) hms

end Steady

end Matcher

end PatternAlgebra
