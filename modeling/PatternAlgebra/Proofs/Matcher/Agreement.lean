import PatternAlgebra.Matcher.Breakage
import PatternAlgebra.Proofs.Matcher.First

/-! What the answers of a combination depend on. What it keeps of its children's matches is shown in
ascending order, so it matters which of them are kept and not in which order. Its children are asked
in turn, and none of them when those before it have decided the answer; so whether it is broken off
is decided by the first child that is broken off or decides the answer. -/
namespace PatternAlgebra

open Fragment

namespace CharRange

lemma eq_of_le_of_le {r q : CharRange} (hrq : r.le q = true) (hqr : q.le r = true) : r = q := by
  simp only [le, Bool.or_eq_true, Bool.and_eq_true, decide_eq_true_eq, beq_iff_eq] at hrq hqr
  exact CharRange.ext (by omega) (by omega)

/-- Sorting erases the order in which ranges are collected. -/
lemma sort_eq_of_perm {rs qs : List CharRange} (h : rs.Perm qs) : sort rs = sort qs := by
  have hsorted (rs : List CharRange) : (sort rs).Pairwise fun r q => r.le q = true :=
    List.pairwise_mergeSort le_trans le_total rs
  have hperm : (sort rs).Perm (sort qs) :=
    (List.mergeSort_perm rs le).trans (h.trans (List.mergeSort_perm qs le).symm)
  exact hperm.eq_of_pairwise (fun r q _ _ => eq_of_le_of_le) (hsorted rs) (hsorted qs)

end CharRange

namespace Union

open CharRange

variable {kept kept' cs : List CharRange}

lemma perm_keep (h : kept.Perm kept') (r : CharRange) : (keep kept r).Perm (keep kept' r) := by
  have hany : (∃ k ∈ kept, k.Conflict r) ↔ ∃ k ∈ kept', k.Conflict r :=
    exists_congr fun k => and_congr_left fun _ => h.mem_iff
  rw [keep_eq, keep_eq]
  by_cases hc : ∃ k ∈ kept, k.Conflict r
  · rwa [if_pos hc, if_pos (hany.mp hc)]
  · rw [if_neg hc, if_neg (hany.not.mp hc)]
    exact h.append_right [r]

/-- The order of what is kept already does not matter. -/
lemma perm_foldl_keep (h : kept.Perm kept') (cs : List CharRange) :
    (cs.foldl keep kept).Perm (cs.foldl keep kept') := by
  induction cs generalizing kept kept' with
  | nil => exact h
  | cons c cs ih => exact ih (perm_keep h c)

/-- Ranges that are not in conflict with each other are all kept. -/
lemma foldl_keep_of_pairwise (h : (kept ++ cs).Pairwise fun r q => ¬r.Conflict q) :
    cs.foldl keep kept = kept ++ cs := by
  induction cs generalizing kept with
  | nil => rw [List.foldl_nil, List.append_nil]
  | cons c cs ih =>
    have hnone : ¬∃ k ∈ kept, k.Conflict c := by
      rintro ⟨k, hk, hc⟩
      exact (List.pairwise_append.mp h).2.2 k hk c List.mem_cons_self hc
    rw [List.append_cons] at h ⊢
    rw [List.foldl_cons, keep_eq, if_neg hnone]
    exact ih h

end Union

namespace Matcher

variable {t : Text} {m n : Matcher} {ms ns : List Matcher}

/-- Two combinations that agree on whether there is a match, and on which matches they keep, show the
same to every visitor. -/
lemma iterate_eq_of_merged_eq (hm : Combines m ms) (hn : Combines n ns)
    (hhas : m.hasMatches t = n.hasMatches t)
    (hmerged : n.hasMatches t = true → merged ms t = merged ns t) {σ : Type} (selection : Selection)
    (visit : Visitor σ) (s : σ) : m.iterate t selection visit s = n.iterate t selection visit s := by
  rw [iterate_combination hm, iterate_combination hn, hhas, ← merged_eq_keepMatches,
    ← merged_eq_keepMatches]
  cases hany : n.hasMatches t with
  | false => rfl
  | true => rw [hmerged hany]

/-! ### Breaking off -/

/-- Whether one of several matchers breaks off that are asked in turn, each for as long as those
before it call for more. -/
def askedInTurn (breaks more : Matcher → Bool) : List Matcher → Bool
  | [] => false
  | m :: ms => breaks m || (more m && askedInTurn breaks more ms)

lemma askedInTurn_append (breaks more : Matcher → Bool) (ms ns : List Matcher) :
    askedInTurn breaks more (ms ++ ns) =
      (askedInTurn breaks more ms || (ms.all more && askedInTurn breaks more ns)) := by
  induction ms with
  | nil => simp [askedInTurn]
  | cons m ms ih =>
    rw [List.cons_append, askedInTurn, askedInTurn, ih, List.all_cons, Bool.and_or_distrib_left,
      Bool.or_assoc, Bool.and_assoc]

/-- Where only those that break off end the questions, it is broken off if any of them does. -/
lemma askedInTurn_eq_any {breaks more : Matcher → Bool}
    (h : ∀ m ∈ ms, breaks m = false → more m = true) :
    askedInTurn breaks more ms = ms.any breaks := by
  induction ms with
  | nil => rfl
  | cons m ms ih =>
    obtain ⟨hm, hms⟩ := List.forall_mem_cons.mp h
    rw [askedInTurn, ih hms, List.any_cons]
    cases hb : breaks m with
    | true => rfl
    | false => rw [hm hb, Bool.true_and]

lemma askedInTurn_eq_false {breaks : Matcher → Bool} (more : Matcher → Bool)
    (h : ∀ m ∈ ms, breaks m = false) : askedInTurn breaks more ms = false := by
  induction ms with
  | nil => rfl
  | cons m ms ih =>
    obtain ⟨hm, hms⟩ := List.forall_mem_cons.mp h
    rw [askedInTurn, hm, ih hms, Bool.and_false, Bool.or_false]

lemma anyHasBreaks_eq (ms : List Matcher) (t : Text) :
    anyHasBreaks ms t = askedInTurn (·.hasBreaks t) (!·.hasMatches t) ms := by
  induction ms with
  | nil => rw [anyHasBreaks, askedInTurn]
  | cons m ms ih => rw [anyHasBreaks, askedInTurn, ih]

lemma locateAllBreaks_eq (ms : List Matcher) (t : Text) :
    locateAllBreaks ms t = askedInTurn (·.locateBreaks t) (·.hasMatches t) ms := by
  induction ms with
  | nil => rw [locateAllBreaks, askedInTurn]
  | cons m ms ih => rw [locateAllBreaks, askedInTurn, ih, hasMatches_eq_isSome_locate]

lemma locateAnyBreaks_eq_any (ms : List Matcher) (t : Text) :
    locateAnyBreaks ms t = ms.any (·.locateBreaks t) := by
  induction ms with
  | nil => rw [locateAnyBreaks, List.any_nil]
  | cons m ms ih => rw [locateAnyBreaks, List.any_cons, ih]

lemma keepBreaks_eq_any (ms : List Matcher) (t : Text) (selection : Selection) :
    keepBreaks ms t selection = ms.any (·.iterateBreaks t selection Union.keeper []) := by
  induction ms with
  | nil => rw [keepBreaks, List.any_nil]
  | cons m ms ih => rw [keepBreaks, List.any_cons, ih]

lemma hasBreaks_disjunction (ms : List Matcher) (t : Text) :
    (disjunction ms).hasBreaks t = askedInTurn (·.hasBreaks t) (!·.hasMatches t) ms := by
  rw [hasBreaks, anyHasBreaks_eq]

lemma locateBreaks_conjunction (ms : List Matcher) (t : Text) :
    (conjunction ms).locateBreaks t = askedInTurn (·.locateBreaks t) (·.hasMatches t) ms := by
  rw [locateBreaks, locateAllBreaks_eq]

lemma hasBreaks_conjunction (ms : List Matcher) (t : Text) :
    (conjunction ms).hasBreaks t = (conjunction ms).locateBreaks t := by
  rw [hasBreaks]
  simp

/-- The stream of a combination is broken off by the question whether there is a match, or by the
stream of some child that is asked for its matches. -/
lemma iterateBreaks_combination (h : Combines m ms) {σ : Type} (t : Text) (selection : Selection)
    (visit : Visitor σ) (s : σ) :
    m.iterateBreaks t selection visit s =
      (m.hasBreaks t || (m.hasMatches t && Union.isVisible selection &&
        ms.any (·.iterateBreaks t (Union.collecting selection) Union.keeper []))) := by
  cases h <;> rw [iterateBreaks, keepBreaks_eq_any]

end Matcher

end PatternAlgebra
