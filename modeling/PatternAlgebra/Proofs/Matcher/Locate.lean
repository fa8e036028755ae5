import PatternAlgebra.Proofs.Matcher.Fragments

/-! Locating and asking for a match. That there is one can be read off `locate` for every matcher,
and a combination that has one locates the leftmost of those that its children locate, of several
with one start the one of the first child. -/
namespace PatternAlgebra

namespace CharRange

lemma earliest_foldl (best : CharRange) (rs : List CharRange) :
    ∃ before r after, best :: rs = before ++ r :: after ∧
      rs.foldl (fun best q => if q.start < best.start then q else best) best = r ∧
      (∀ q ∈ before, r.start < q.start) ∧ ∀ q ∈ after, r.start ≤ q.start := by
  induction rs generalizing best with
  | nil => exact ⟨[], best, [], rfl, rfl, by simp, by simp⟩
  | cons q rs ih =>
    rw [List.foldl_cons]
    split_ifs with hlt
    · obtain ⟨before, r, after, hsplit, hfold, hbefore, hafter⟩ := ih q
      have hr : r.start ≤ q.start := by
        have hmem : q ∈ before ++ r :: after := hsplit ▸ List.mem_cons_self
        rcases List.mem_append.mp hmem with hmem | hmem
        · exact (hbefore q hmem).le
        · exact (List.forall_mem_cons (p := fun q => r.start ≤ q.start)).mpr ⟨le_rfl, hafter⟩ q hmem
      exact ⟨best :: before, r, after, by rw [hsplit, List.cons_append], hfold,
        List.forall_mem_cons.mpr ⟨hr.trans_lt hlt, hbefore⟩, hafter⟩
    · obtain ⟨before, r, after, hsplit, hfold, hbefore, hafter⟩ := ih best
      have hle : best.start ≤ q.start := not_lt.mp hlt
      cases before with
      | nil =>
        obtain ⟨rfl, rfl⟩ := List.cons.inj hsplit
        exact ⟨[], best, q :: rs, rfl, hfold, by simp, List.forall_mem_cons.mpr ⟨hle, hafter⟩⟩
      | cons b before =>
        obtain ⟨rfl, rfl⟩ := List.cons.inj hsplit
        obtain ⟨hb, hbefore⟩ := List.forall_mem_cons.mp hbefore
        exact ⟨best :: q :: before, r, after, rfl, hfold, List.forall_mem_cons.mpr
          ⟨hb, List.forall_mem_cons.mpr ⟨hb.trans_le hle, hbefore⟩⟩, hafter⟩

lemma earliest_eq_none {rs : List CharRange} : earliest rs = none ↔ rs = [] := by
  cases rs <;> simp [earliest]

/-- The earliest range starts before all that precede it in the list and no later than the rest. -/
lemma earliest_eq_some {rs : List CharRange} {r : CharRange} (h : earliest rs = some r) :
    ∃ before after, rs = before ++ r :: after ∧ (∀ q ∈ before, r.start < q.start) ∧
      ∀ q ∈ after, r.start ≤ q.start := by
  cases rs with
  | nil => contradiction
  | cons best rs =>
    obtain ⟨before, r', after, hsplit, hfold, hbefore, hafter⟩ := earliest_foldl best rs
    obtain rfl : r' = r := hfold.symm.trans (Option.some.inj h)
    exact ⟨before, after, hsplit, hbefore, hafter⟩

end CharRange

namespace Matcher

lemma locateEach_eq_map (ms : List Matcher) (t : Text) :
    locateEach ms t = ms.map (·.locate t) := by
  induction ms with
  | nil => rw [locateEach, List.map_nil]
  | cons m ms ih => rw [locateEach, ih, List.map_cons]

lemma anyHasMatches_eq_any (ms : List Matcher) (t : Text) :
    anyHasMatches ms t = ms.any (·.hasMatches t) := by
  induction ms with
  | nil => rw [anyHasMatches, List.any_nil]
  | cons m ms ih => rw [anyHasMatches, ih, List.any_cons]

lemma mapM_locate (ms : List Matcher) (t : Text) :
    (ms.map (·.locate t)).mapM id =
      if ∀ m ∈ ms, (m.locate t).isSome then some (ms.filterMap (·.locate t)) else none := by
  induction ms with
  | nil => rfl
  | cons m ms ih =>
    cases hm : m.locate t with
    | none => simp [hm]
    | some r => by_cases hms : ∀ m ∈ ms, (m.locate t).isSome <;> simp_all

lemma locate_conjunction (ms : List Matcher) (t : Text) :
    (conjunction ms).locate t =
      if ∀ m ∈ ms, (m.locate t).isSome then CharRange.earliest (ms.filterMap (·.locate t))
      else none := by
  rw [locate, locateEach_eq_map, mapM_locate]
  split_ifs <;> rfl

lemma locate_disjunction (ms : List Matcher) (t : Text) :
    (disjunction ms).locate t = CharRange.earliest (ms.filterMap (·.locate t)) := by
  rw [locate, locateEach_eq_map, List.filterMap_map]
  rfl

/-- A matcher has a match just if it locates one. -/
theorem hasMatches_eq_isSome_locate (m : Matcher) (t : Text) :
    m.hasMatches t = (m.locate t).isSome := by
  induction m with
  | disjunction ms ih =>
    rw [hasMatches, anyHasMatches_eq_any, locate_disjunction, Bool.eq_iff_iff, List.any_eq_true,
      Option.isSome_iff_ne_none, Ne, CharRange.earliest_eq_none, List.filterMap_eq_nil_iff]
    push Not
    refine exists_congr fun m => and_congr_right fun hm => ?_
    rw [ih m hm, Option.isSome_iff_ne_none]
  | _ => rw [hasMatches]; rintro _ ⟨⟩

/-- A conjunction has a match if it has children and each of them has one. -/
lemma hasMatches_conjunction (ms : List Matcher) (t : Text) :
    (conjunction ms).hasMatches t = true ↔ ms ≠ [] ∧ ∀ m ∈ ms, m.hasMatches t = true := by
  simp only [hasMatches_eq_isSome_locate, locate_conjunction]
  cases ms with
  | nil => simp [CharRange.earliest]
  | cons m ms =>
    split_ifs with hall
    · obtain ⟨r, hr⟩ := Option.isSome_iff_exists.mp (hall m List.mem_cons_self)
      have hne : (CharRange.earliest ((m :: ms).filterMap (·.locate t))).isSome := by
        simp [hr, CharRange.earliest]
      simpa [hne] using hall
    · simpa using hall

/-- A combination that has a match locates the earliest of those that its children locate. -/
theorem locate_combination {m : Matcher} {ms : List Matcher} (h : Combines m ms) (t : Text) :
    m.locate t =
      if m.hasMatches t then CharRange.earliest (ms.filterMap (·.locate t)) else none := by
  have hsome := hasMatches_eq_isSome_locate m t
  split_ifs with hm
  · cases h with
    | conjunction =>
      rw [locate_conjunction] at hsome ⊢
      split_ifs at hsome ⊢
      · rfl
      · simp_all
    | disjunction => exact locate_disjunction ms t
  · simpa [hm] using hsome.symm

end Matcher

end PatternAlgebra
