import PatternAlgebra.Proofs.Matcher.Breakage
import PatternAlgebra.Proofs.Matcher.Fragments

/-! The matches of a union. Of the candidates, each is kept unless it conflicts with one that is
kept before it, and what is kept is shown in ascending order. Ranges that do not conflict lie one
behind the other once they are sorted, empty ones at the edges of others included. -/
namespace PatternAlgebra

open Fragment

namespace CharRange

@[ext]
lemma ext {r q : CharRange} (hstart : r.start = q.start) (hstop : r.stop = q.stop) : r = q := by
  cases r
  cases q
  simp_all

/-- An empty range that lies strictly inside another one. -/
def EmptyInside (r q : CharRange) : Prop :=
  r.start = r.stop ∧ q.start < r.start ∧ r.start < q.stop

/-- Two ranges conflict if they are equal, share a position, or one is empty and strictly inside
the other. -/
def Conflict (r q : CharRange) : Prop :=
  r = q ∨ (∃ p, (r.start ≤ p ∧ p < r.stop) ∧ q.start ≤ p ∧ p < q.stop) ∨
    r.EmptyInside q ∨ q.EmptyInside r

lemma Conflict.symm {r q : CharRange} (h : r.Conflict q) : q.Conflict r := by
  rcases h with rfl | ⟨p, hr, hq⟩ | h | h
  · exact Or.inl rfl
  · exact Or.inr (Or.inl ⟨p, hq, hr⟩)
  · exact Or.inr (Or.inr (Or.inr h))
  · exact Or.inr (Or.inr (Or.inl h))

def Precedes (r q : CharRange) : Prop := r.stop ≤ q.start ∧ r ≠ q

lemma Precedes.lex {r q : CharRange} (h : r.Precedes q) :
    r.start < q.start ∨ r.start = q.start ∧ r.stop < q.stop := by
  obtain ⟨hle, hne⟩ := h
  have hr := r.start_le_stop
  have hq := q.start_le_stop
  have hends : r.start = q.start → r.stop ≠ q.stop := fun hs he => hne (CharRange.ext hs he)
  omega

lemma le_trans (r q s : CharRange) (h₁ : r.le q = true) (h₂ : q.le s = true) :
    r.le s = true := by
  simp only [le, Bool.or_eq_true, Bool.and_eq_true, decide_eq_true_eq, beq_iff_eq] at *
  omega

lemma le_total (r q : CharRange) : (r.le q || q.le r) = true := by
  simp only [le, Bool.or_eq_true, Bool.and_eq_true, decide_eq_true_eq, beq_iff_eq]
  omega

/-- Of two ranges in ascending order that do not conflict, the first ends where the second starts
or before. -/
lemma precedes_of_le {r q : CharRange} (hle : r.le q = true) (h : ¬r.Conflict q) :
    r.Precedes q := by
  refine ⟨?_, fun he => h (Or.inl he)⟩
  simp only [le, Bool.or_eq_true, Bool.and_eq_true, decide_eq_true_eq, beq_iff_eq] at hle
  have hq := q.start_le_stop
  by_contra hlt
  -- the first range reaches into the second one, whether that is empty or not
  rcases hq.lt_or_eq with hfull | hempty
  · exact h (Or.inr (Or.inl ⟨q.start, ⟨by omega, by omega⟩, le_rfl, hfull⟩))
  · exact h (Or.inr (Or.inr (Or.inr ⟨hempty, by omega, by omega⟩)))

/-- Sorting ranges without conflicts puts them one behind the other. -/
lemma pairwise_sort {rs : List CharRange} (h : rs.Pairwise fun r q => ¬r.Conflict q) :
    (sort rs).Pairwise Precedes := by
  have hsorted : (sort rs).Pairwise fun r q => r.le q = true :=
    List.pairwise_mergeSort le_trans le_total rs
  have hapart : (sort rs).Pairwise fun r q => ¬r.Conflict q :=
    (List.mergeSort_perm rs le).symm.pairwise h fun hc hs => hc hs.symm
  exact hsorted.imp₂ (fun _ _ hle hc => precedes_of_le hle hc) hapart

end CharRange

namespace Union

open CharRange

lemma conflicts_iff (r q : CharRange) : conflicts r q = true ↔ r.Conflict q := by
  have hr := r.start_le_stop
  have hq := q.start_le_stop
  simp only [conflicts, overlaps, isEmpty, Bool.or_eq_true, Bool.and_eq_true, Bool.not_eq_true',
    Bool.or_eq_false_iff, decide_eq_true_eq, decide_eq_false_iff_not, beq_iff_eq,
    beq_eq_false_iff_ne, Conflict, EmptyInside, or_assoc, and_assoc, not_le]
  constructor
  · rintro (he | ⟨hne₁, hne₂, hlt₁, hlt₂⟩ | ⟨hlt₁, hlt₂⟩ | ⟨hlt₁, hlt₂⟩)
    · exact Or.inl he
    · exact Or.inr (Or.inl ⟨max r.start q.start, by omega, by omega⟩)
    · rcases hq.lt_or_eq with hfull | hempty
      · exact Or.inr (Or.inl ⟨q.start, by omega, by omega⟩)
      · exact Or.inr (Or.inr (Or.inr ⟨hempty, hlt₁, hlt₂⟩))
    · rcases hr.lt_or_eq with hfull | hempty
      · exact Or.inr (Or.inl ⟨r.start, by omega, by omega⟩)
      · exact Or.inr (Or.inr (Or.inl ⟨hempty, hlt₁, hlt₂⟩))
  · rintro (he | ⟨p, hp₁, hp₂⟩ | ⟨-, hlt₁, hlt₂⟩ | ⟨-, hlt₁, hlt₂⟩)
    · exact Or.inl he
    · exact Or.inr (Or.inl ⟨by omega, by omega, by omega, by omega⟩)
    · exact Or.inr (Or.inr (Or.inr ⟨hlt₁, hlt₂⟩))
    · exact Or.inr (Or.inr (Or.inl ⟨hlt₁, hlt₂⟩))

instance (r q : CharRange) : Decidable (r.Conflict q) := decidable_of_iff _ (conflicts_iff r q)

lemma keep_eq (kept : List CharRange) (r : CharRange) :
    keep kept r = if ∃ k ∈ kept, k.Conflict r then kept else kept ++ [r] := by
  simp only [keep, List.any_eq_true, conflicts_iff]

lemma mem_keep {kept : List CharRange} {r q : CharRange} :
    q ∈ keep kept r ↔ q ∈ kept ∨ q = r ∧ ∀ k ∈ kept, ¬k.Conflict r := by
  rw [keep_eq]
  split_ifs with h
  · obtain ⟨k, hk, hc⟩ := h
    exact ⟨Or.inl, fun hq => hq.resolve_right fun hnone => hnone.2 k hk hc⟩
  · have hnone : ∀ k ∈ kept, ¬k.Conflict r := fun k hk hc => h ⟨k, hk, hc⟩
    rw [List.mem_append, List.mem_singleton]
    exact or_congr_right ⟨fun he => ⟨he, hnone⟩, And.left⟩

lemma pairwise_keep {kept : List CharRange} (h : kept.Pairwise fun r q => ¬r.Conflict q)
    (r : CharRange) : (keep kept r).Pairwise fun r q => ¬r.Conflict q := by
  rw [keep_eq]
  split_ifs with hany
  · exact h
  · refine List.pairwise_append.mpr ⟨h, List.pairwise_singleton _ _, fun k hk q hq hc => ?_⟩
    exact hany ⟨k, hk, List.mem_singleton.mp hq ▸ hc⟩

lemma pairwise_foldl_keep {kept : List CharRange} (h : kept.Pairwise fun r q => ¬r.Conflict q)
    (cs : List CharRange) : (cs.foldl keep kept).Pairwise fun r q => ¬r.Conflict q := by
  induction cs generalizing kept with
  | nil => exact h
  | cons c cs ih => exact ih (pairwise_keep h c)

/-- Whether the candidate at a position is kept: it conflicts with none that is kept before it. -/
def Keeps (cs : List CharRange) (i : ℕ) : Prop :=
  ∃ r, cs[i]? = some r ∧ ∀ j < i, Keeps cs j → ∀ q, cs[j]? = some q → ¬q.Conflict r
termination_by i

lemma keeps_append {cs : List CharRange} (ds : List CharRange) {i : ℕ} (hi : i < cs.length) :
    Keeps (cs ++ ds) i ↔ Keeps cs i := by
  induction i using Nat.strong_induction_on with
  | _ i ih =>
    rw [Keeps, Keeps, List.getElem?_append_left hi]
    refine exists_congr fun r => and_congr_right fun _ => forall_congr' fun j => ?_
    refine forall_congr' fun hj => ?_
    rw [ih j hj (hj.trans hi), List.getElem?_append_left (hj.trans hi)]

/-- Going through the candidates in turn keeps those that are not in conflict with one before. -/
theorem mem_foldl_keep (cs : List CharRange) (r : CharRange) :
    r ∈ cs.foldl keep [] ↔ ∃ i, cs[i]? = some r ∧ Keeps cs i := by
  -- from the end, because a candidate depends on those before it
  induction cs using List.reverseRecOn generalizing r with
  | nil => simp
  | append_singleton cs c ih =>
    have hbefore {i : ℕ} (hi : i < cs.length) (q : CharRange) :
        (cs ++ [c])[i]? = some q ∧ Keeps (cs ++ [c]) i ↔ cs[i]? = some q ∧ Keeps cs i := by
      rw [List.getElem?_append_left hi, keeps_append _ hi]
    have hlast : Keeps (cs ++ [c]) cs.length ↔ ∀ k ∈ cs.foldl keep [], ¬k.Conflict c := by
      rw [Keeps]
      simp only [List.getElem?_concat_length, Option.some.injEq, exists_eq_left']
      constructor
      · intro h k hk
        obtain ⟨j, hj, hkeeps⟩ := (ih k).mp hk
        have hlt := (List.getElem?_eq_some_iff.mp hj).1
        have hj' := (hbefore hlt k).mpr ⟨hj, hkeeps⟩
        exact h j hlt hj'.2 k hj'.1
      · intro h j hlt hkeeps q hj
        exact h q ((ih q).mpr ⟨j, (hbefore hlt q).mp ⟨hj, hkeeps⟩⟩)
    rw [List.foldl_append, List.foldl_cons, List.foldl_nil, mem_keep, ← hlast, ih]
    constructor
    · rintro (⟨i, hi, hkeeps⟩ | ⟨rfl, hkeeps⟩)
      · exact ⟨i, (hbefore (List.getElem?_eq_some_iff.mp hi).1 r).mpr ⟨hi, hkeeps⟩⟩
      · exact ⟨cs.length, by simp, hkeeps⟩
    · rintro ⟨i, hi, hkeeps⟩
      have hle := (List.getElem?_eq_some_iff.mp hi).1
      rw [List.length_append, List.length_singleton] at hle
      rcases Nat.lt_succ_iff_lt_or_eq.mp hle with hlt | rfl
      · exact Or.inl ⟨i, (hbefore hlt r).mp ⟨hi, hkeeps⟩⟩
      · exact Or.inr ⟨by simpa using hi.symm, hkeeps⟩

lemma mem_of_mem_foldl_keep {cs : List CharRange} {r : CharRange} (h : r ∈ cs.foldl keep []) :
    r ∈ cs := by
  obtain ⟨i, hi, -⟩ := (mem_foldl_keep cs r).mp h
  exact List.mem_of_getElem? hi

lemma exists_conflict_of_not_keeps {cs : List CharRange} {i : ℕ} {r : CharRange}
    (hi : cs[i]? = some r) (h : ¬Keeps cs i) :
    ∃ j < i, Keeps cs j ∧ ∃ q, cs[j]? = some q ∧ q.Conflict r := by
  rw [Keeps] at h
  by_contra hnone
  exact h ⟨r, hi, fun j hj hkeeps q hq hc => hnone ⟨j, hj, hkeeps, q, hq, hc⟩⟩

end Union

namespace Matcher

lemma mem_merged {ms : List Matcher} {t : Text} {r : CharRange} :
    r ∈ merged ms t ↔ r ∈ (candidates ms t).foldl Union.keep [] :=
  (List.mergeSort_perm _ _).mem_iff

lemma pairwise_merged (ms : List Matcher) (t : Text) :
    (merged ms t).Pairwise CharRange.Precedes :=
  CharRange.pairwise_sort (Union.pairwise_foldl_keep List.Pairwise.nil (candidates ms t))

lemma ranges_matchesOnly_combination {m : Matcher} {ms : List Matcher} (h : Combines m ms)
    {t : Text} (hm : m.hasMatches t = true) (payload : Option Text) :
    m.ranges t { Selection.matchesOnly with payload } = (merged ms t).map .matched := by
  rw [ranges_payload, ranges_combination h, if_pos hm, Selection.restrict_layout_matchesOnly,
    Union.map_whole_bare]

/-- A combination that has a match shows, in ascending order and one behind the other, the
candidates of its children that conflict with none that is kept before them. So a candidate is
dropped only for one that is kept and comes earlier. The stream is not broken off if no search in
the target is. -/
theorem combination_merges_greedily {m : Matcher} {ms : List Matcher} (h : Combines m ms)
    {t : Text} (hm : m.hasMatches t = true) (payload : Option Text) :
    let cs := candidates ms t
    (Steady t m →
        m.breaksOff t (.iterate { Selection.matchesOnly with payload } none) = false) ∧
      ∃ rs : List CharRange, m.ranges t { Selection.matchesOnly with payload } = rs.map .matched ∧
        (∀ r, r ∈ rs ↔ ∃ i, cs[i]? = some r ∧ Union.Keeps cs i) ∧
        rs.Pairwise (fun r q => (r.start < q.start ∨ r.start = q.start ∧ r.stop < q.stop) ∧
          r.stop ≤ q.start) ∧
        ∀ i r, cs[i]? = some r → ¬Union.Keeps cs i →
          ∃ j < i, Union.Keeps cs j ∧ ∃ q, cs[j]? = some q ∧ q.Conflict r := by
  refine ⟨fun hsteady => hsteady.breaksOff_eq_false (by simp), merged ms t,
    ranges_matchesOnly_combination h hm payload, fun r => ?_, ?_,
    fun i r => Union.exists_conflict_of_not_keeps⟩
  · rw [mem_merged, Union.mem_foldl_keep]
  · exact (pairwise_merged ms t).imp fun hp => ⟨hp.lex, hp.1⟩

/-- In `aba` the match of `b` is a candidate before the whole text and the only one that is kept. -/
theorem combination_merges_greedily_letter :
    let m := disjunction [regex (.letter 'b'), whole]
    let cs := [CharRange.ofBounds 1 2, CharRange.ofBounds 0 3]
    m.hasMatches ['a', 'b', 'a'] = true ∧
      candidates [regex (.letter 'b'), whole] ['a', 'b', 'a'] = cs ∧
      m.breaksOff ['a', 'b', 'a'] (.iterate .matchesOnly none) = false ∧
      ∃ rs : List CharRange, m.ranges ['a', 'b', 'a'] .matchesOnly = rs.map .matched ∧
        ∀ r, r ∈ rs ↔ ∃ i, cs[i]? = some r ∧ Union.Keeps cs i := by
  intro m cs
  have hm : m.hasMatches ['a', 'b', 'a'] = true := by decide +kernel
  have hcs : candidates [regex (.letter 'b'), whole] ['a', 'b', 'a'] = cs := by decide +kernel
  have hsteady : Steady ['a', 'b', 'a'] m := by
    refine .disjunction fun c hc => ?_
    rcases List.mem_cons.mp hc with rfl | hc
    · exact .of_not_canBreak rfl _
    · rw [List.mem_singleton.mp hc]
      exact .whole _
  obtain ⟨hreturns, rs, hranges, hmem, -, -⟩ := combination_merges_greedily (.disjunction _) hm none
  exact ⟨hm, hcs, hreturns hsteady, rs, hranges, hcs ▸ hmem⟩

end Matcher

end PatternAlgebra
