import PatternAlgebra.Proofs.Matcher.Agreement
import PatternAlgebra.Proofs.Matcher.Algebra

/-! The order of a combination's children. It decides which of two matches in conflict is kept, and
nothing else of what is shown: where no two different matches are in conflict, all of them are kept
once. It also decides which child settles the question whether there is a match, and so whether one
whose search is broken off is asked at all. -/
namespace PatternAlgebra

open Fragment

namespace Union

/-- Where different candidates are not in conflict, each of them is kept. -/
lemma mem_foldl_keep_iff_of_apart {cs : List CharRange}
    (hapart : ∀ r ∈ cs, ∀ q ∈ cs, r = q ∨ ¬r.Conflict q) (r : CharRange) :
    r ∈ cs.foldl keep [] ↔ r ∈ cs := by
  refine ⟨mem_of_mem_foldl_keep, fun hr => ?_⟩
  obtain ⟨k, hk, hc⟩ := exists_conflict_of_mem hr
  rcases hapart k (mem_of_mem_foldl_keep hk) r hr with rfl | hnone
  · exact hk
  · exact absurd hc hnone

lemma nodup_foldl_keep (cs : List CharRange) : (cs.foldl keep []).Nodup :=
  (pairwise_foldl_keep List.Pairwise.nil cs).imp fun hnone he => hnone (Or.inl he)

end Union

namespace Matcher

variable {t : Text} {ms ns : List Matcher}

lemma mem_candidates_iff (hmem : ∀ c, c ∈ ns ↔ c ∈ ms) (r : CharRange) :
    r ∈ candidates ns t ↔ r ∈ candidates ms t := by
  simp only [candidates, List.mem_flatMap, hmem]

lemma merged_eq_of_mem_iff (hmem : ∀ c, c ∈ ns ↔ c ∈ ms)
    (hapart : ∀ r ∈ candidates ms t, ∀ q ∈ candidates ms t, r = q ∨ ¬r.Conflict q) :
    merged ns t = merged ms t := by
  have hapart' : ∀ r ∈ candidates ns t, ∀ q ∈ candidates ns t, r = q ∨ ¬r.Conflict q :=
    fun r hr q hq => hapart r ((mem_candidates_iff hmem r).mp hr) q ((mem_candidates_iff hmem q).mp hq)
  refine CharRange.sort_eq_of_perm
    ((List.perm_ext_iff_of_nodup (Union.nodup_foldl_keep _) (Union.nodup_foldl_keep _)).mpr fun r => ?_)
  rw [Union.mem_foldl_keep_iff_of_apart hapart', Union.mem_foldl_keep_iff_of_apart hapart,
    mem_candidates_iff hmem]

lemma any_eq_of_mem_iff (hmem : ∀ c, c ∈ ns ↔ c ∈ ms) (p : Matcher → Bool) :
    ns.any p = ms.any p := by
  rw [Bool.eq_iff_iff, List.any_eq_true, List.any_eq_true]
  simp only [hmem]

/-- Both kinds of combination. -/
inductive Combining : (List Matcher → Matcher) → Prop
  | conjunction : Combining conjunction
  | disjunction : Combining disjunction

variable {combine : List Matcher → Matcher}

lemma Combining.combines (h : Combining combine) (ms : List Matcher) : Combines (combine ms) ms := by
  cases h with
  | conjunction => exact .conjunction ms
  | disjunction => exact .disjunction ms

lemma Combining.hasMatches_eq (h : Combining combine) (hmem : ∀ c, c ∈ ns ↔ c ∈ ms) (t : Text) :
    (combine ns).hasMatches t = (combine ms).hasMatches t := by
  rw [Bool.eq_iff_iff]
  cases h with
  | conjunction =>
    have hnil : ns ≠ [] ↔ ms ≠ [] := by
      simp only [ne_eq, List.eq_nil_iff_forall_not_mem, hmem]
    rw [hasMatches_conjunction, hasMatches_conjunction, hnil]
    simp only [hmem]
  | disjunction =>
    rw [hasMatches_disjunction, hasMatches_disjunction]
    simp only [hmem]

/-! ### Who is asked -/

/-- The order of those who are asked matters just if some break off and others, who do not, leave
nothing to ask. -/
lemma askedInTurn_eq_iff (breaks more : Matcher → Bool) (ms : List Matcher) :
    (∀ ns : List Matcher, (∀ c, c ∈ ns ↔ c ∈ ms) →
        askedInTurn breaks more ns = askedInTurn breaks more ms) ↔
      ¬((∃ b ∈ ms, breaks b = true) ∧ ∃ c ∈ ms, breaks c = false ∧ more c = false) := by
  constructor
  · rintro hsame ⟨⟨b, hb, hbreaks⟩, c, hc, hnone, hlast⟩
    have hrepeat {d : Matcher} (hd : d ∈ ms) : ∀ c, c ∈ d :: ms ↔ c ∈ ms := by
      intro c
      rw [List.mem_cons, or_iff_right_iff_imp]
      rintro rfl
      exact hd
    -- with `b` in front it is broken off, with `c` in front it is not
    have hfirst := hsame (b :: ms) (hrepeat hb)
    have hsecond := hsame (c :: ms) (hrepeat hc)
    rw [askedInTurn, hbreaks, Bool.true_or] at hfirst
    rw [askedInTurn, hnone, hlast, Bool.false_and, Bool.or_false] at hsecond
    exact Bool.false_ne_true (hsecond.trans hfirst.symm)
  · intro hnot ns hmem
    by_cases hany : ∃ b ∈ ms, breaks b = true
    · have hmore : ∀ c ∈ ms, breaks c = false → more c = true := by
        intro c hc hnone
        by_contra hlast
        exact hnot ⟨hany, c, hc, hnone, eq_false_of_ne_true hlast⟩
      have hmore' : ∀ c ∈ ns, breaks c = false → more c = true :=
        fun c hc => hmore c ((hmem c).mp hc)
      rw [askedInTurn_eq_any hmore, askedInTurn_eq_any hmore', any_eq_of_mem_iff hmem]
    · have hnone : ∀ c ∈ ms, breaks c = false :=
        fun c hc => eq_false_of_ne_true fun hb => hany ⟨c, hc, hb⟩
      rw [askedInTurn_eq_false more hnone,
        askedInTurn_eq_false more fun c hc => hnone c ((hmem c).mp hc)]

lemma Combining.iterateBreaks_eq (h : Combining combine) (hmem : ∀ c, c ∈ ns ↔ c ∈ ms)
    (hbreaks : (combine ns).hasBreaks t = (combine ms).hasBreaks t) {σ : Type}
    (selection : Selection) (visit : Visitor σ) (s : σ) :
    (combine ns).iterateBreaks t selection visit s = (combine ms).iterateBreaks t selection visit s := by
  rw [iterateBreaks_combination (h.combines ns), iterateBreaks_combination (h.combines ms), hbreaks,
    h.hasMatches_eq hmem, any_eq_of_mem_iff hmem]

/-- Where no two different matches of its children are in conflict, a combination of the same children
in any order and number has a match for the same targets, and shows and counts the same. Its answers
are broken off for the same targets too, whatever the order, just if there are not both a child whose
search is broken off and another one that leaves nothing to ask: one without a match in a conjunction,
one with a match in a disjunction. -/
theorem order_of_children
    (hapart : ∀ r ∈ candidates ms t, ∀ q ∈ candidates ms t, r = q ∨ ¬r.Conflict q) :
    (∀ combine, Combining combine → ∀ ns, (∀ c, c ∈ ns ↔ c ∈ ms) →
        (combine ns).hasMatches t = (combine ms).hasMatches t ∧
          (∀ {σ : Type} (selection : Selection) (visit : Visitor σ) (s : σ),
            (combine ns).iterate t selection visit s = (combine ms).iterate t selection visit s) ∧
          ((combine ns).hasBreaks t = (combine ms).hasBreaks t →
            ∀ {σ : Type} (selection : Selection) (visit : Visitor σ) (s : σ),
              (combine ns).iterateBreaks t selection visit s =
                (combine ms).iterateBreaks t selection visit s)) ∧
      ((∀ ns, (∀ c, c ∈ ns ↔ c ∈ ms) →
          (conjunction ns).hasBreaks t = (conjunction ms).hasBreaks t) ↔
        ¬((∃ b ∈ ms, b.locateBreaks t = true) ∧
          ∃ c ∈ ms, c.locateBreaks t = false ∧ c.hasMatches t = false)) ∧
      ((∀ ns, (∀ c, c ∈ ns ↔ c ∈ ms) →
          (disjunction ns).hasBreaks t = (disjunction ms).hasBreaks t) ↔
        ¬((∃ b ∈ ms, b.hasBreaks t = true) ∧
          ∃ c ∈ ms, c.hasBreaks t = false ∧ c.hasMatches t = true)) := by
  refine ⟨fun combine h ns hmem => ⟨h.hasMatches_eq hmem t, ?_, fun hbreaks => ?_⟩, ?_, ?_⟩
  · exact iterate_eq_of_merged_eq (h.combines ns) (h.combines ms) (h.hasMatches_eq hmem t) fun _ =>
      merged_eq_of_mem_iff hmem hapart
  · exact h.iterateBreaks_eq hmem hbreaks
  · simp only [hasBreaks_conjunction, locateBreaks_conjunction]
    exact askedInTurn_eq_iff _ _ ms
  · simp only [hasBreaks_disjunction]
    simpa using askedInTurn_eq_iff (·.hasBreaks t) (!·.hasMatches t) ms

/-- In `aba` both `b` and `a` have all their matches shown, also when `b` comes first and again. -/
theorem order_of_children_letters :
    let a := regex (.letter 'a')
    let b := regex (.letter 'b')
    let t := ['a', 'b', 'a']
    (∀ r ∈ candidates [a, b] t, ∀ q ∈ candidates [a, b] t, r = q ∨ ¬r.Conflict q) ∧
      (conjunction [b, a, b]).hasMatches t = (conjunction [a, b]).hasMatches t ∧
      (disjunction [b, a, b]).iterate t .matchesOnly Visitor.collect [] =
        (disjunction [a, b]).iterate t .matchesOnly Visitor.collect [] ∧
      (disjunction [b, a, b]).hasBreaks t = (disjunction [a, b]).hasBreaks t := by
  intro a b t
  have hapart : ∀ r ∈ candidates [a, b] t, ∀ q ∈ candidates [a, b] t, r = q ∨ ¬r.Conflict q := by
    decide +kernel
  have hmem : ∀ c, c ∈ [b, a, b] ↔ c ∈ [a, b] := by
    intro c
    simp only [List.mem_cons, List.not_mem_nil, or_false]
    tauto
  obtain ⟨hsame, -, hbreaks⟩ := order_of_children hapart
  have hnone : ¬((∃ c ∈ [a, b], c.hasBreaks t = true) ∧
      ∃ c ∈ [a, b], c.hasBreaks t = false ∧ c.hasMatches t = true) := by
    decide +kernel
  exact ⟨hapart, (hsame _ .conjunction _ hmem).1, (hsame _ .disjunction _ hmem).2.1 _ _ _,
    hbreaks.mpr hnone _ hmem⟩

/-- The group of `(\1|a)` is referred to from its own inside, which breaks the search off that the
inversion makes behind the first `x`, but not the one for its matches. Asked behind `x` the inversion
is not asked whether it has a match; in front of `x` it is. -/
theorem order_of_children_broken_off :
    ∃ r x : Regex, Regex.compile? "x|^(?:(\\1|a)c)+".toList (.ofCase true) = some r ∧
      Regex.compile? "x".toList (.ofCase true) = some x ∧
      let gaps := inversion (regex r)
      let t := "xac".toList
      candidates [regex x, gaps] t = [.ofBounds 0 1, .ofBounds 1 3] ∧
        (∀ r ∈ candidates [regex x, gaps] t, ∀ q ∈ candidates [regex x, gaps] t,
          r = q ∨ ¬r.Conflict q) ∧
        gaps.breaksOff t (.matches .matchesOnly) = false ∧
        (disjunction [regex x, gaps]).breaksOff t .hasMatches = false ∧
        (disjunction [regex x, gaps]).breaksOff t (.matches .matchesOnly) = false ∧
        (disjunction [regex x, gaps]).hasMatches t = true ∧
        (disjunction [gaps, regex x]).breaksOff t .hasMatches = true ∧
        (disjunction [gaps, regex x]).breaksOff t (.matches .matchesOnly) = true := by
  refine ⟨(Regex.compile? "x|^(?:(\\1|a)c)+".toList (.ofCase true)).get (by decide +kernel),
    (Regex.compile? "x".toList (.ofCase true)).get (by decide +kernel), ?_⟩
  decide +kernel

end Matcher

end PatternAlgebra
