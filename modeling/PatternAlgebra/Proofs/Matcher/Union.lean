import PatternAlgebra.Matcher.Union
import PatternAlgebra.Proofs.Stream.Layout

/-! The stream of a union. Collecting keeps ranges in the order in which they come, and showing
them in ascending order is the stream of matches without groups. -/
namespace PatternAlgebra

open Fragment

namespace Fragment

/-- The ranges of the matches of a stream. -/
def matchedRanges (fs : List (Fragment CharRange)) : List CharRange :=
  fs.filterMap fun
    | .matched range => some range
    | _ => none

@[simp] lemma matchedRanges_nil : matchedRanges [] = [] := rfl

@[simp] lemma matchedRanges_matched (r : CharRange) (fs : List (Fragment CharRange)) :
    matchedRanges (.matched r :: fs) = r :: matchedRanges fs := rfl

@[simp] lemma matchedRanges_unmatched (r : CharRange) (fs : List (Fragment CharRange)) :
    matchedRanges (.unmatched r :: fs) = matchedRanges fs := rfl

@[simp] lemma matchedRanges_group (r : CharRange) (id : ℕ) (fs : List (Fragment CharRange)) :
    matchedRanges (.group r id :: fs) = matchedRanges fs := rfl

lemma matchedRanges_map_matched (rs : List CharRange) : matchedRanges (rs.map .matched) = rs := by
  induction rs with
  | nil => rfl
  | cons r rs ih => rw [List.map_cons, matchedRanges_matched, ih]

lemma mem_matchedRanges {fs : List (Fragment CharRange)} {r : CharRange} :
    r ∈ matchedRanges fs ↔ .matched r ∈ fs := by
  induction fs with
  | nil => simp
  | cons f fs ih => cases f <;> simp [ih]

lemma filter_matched_eq_map (fs : List (Fragment CharRange)) :
    fs.filter (·.kind == .matched) = (matchedRanges fs).map .matched := by
  induction fs with
  | nil => rfl
  | cons f fs ih =>
    cases f with
    | matched r => rw [List.filter_cons_of_pos rfl, ih, matchedRanges_matched, List.map_cons]
    | unmatched r => rw [List.filter_cons_of_neg Bool.false_ne_true, ih, matchedRanges_unmatched]
    | group r id => rw [List.filter_cons_of_neg Bool.false_ne_true, ih, matchedRanges_group]

lemma matchedRanges_filter {wanted : Fragment CharRange → Bool} (h : ∀ r, wanted (.matched r) = true)
    (fs : List (Fragment CharRange)) : matchedRanges (fs.filter wanted) = matchedRanges fs := by
  induction fs with
  | nil => rfl
  | cons f fs ih =>
    rw [List.filter_cons]
    cases f with
    | matched r => simp [h, ih]
    | _ => split_ifs <;> simp [ih]

lemma matchedRanges_upToMatch (n : ℕ) (fs : List (Fragment CharRange)) :
    matchedRanges (upToMatch n fs) = (matchedRanges fs).take n := by
  induction fs generalizing n with
  | nil => simp
  | cons f fs ih =>
    cases n with
    | zero => cases f <;> simp [upToMatch, kind, ih]
    | succ n => cases f <;> simp [upToMatch, kind, ih]

end Fragment

namespace Union

variable {σ : Type}

/-- Ranges as matches without groups. -/
def bare (ranges : List CharRange) : List (Engine.Match CharRange) := ranges.map (⟨·, []⟩)

lemma map_whole_bare (ranges : List CharRange) : (bare ranges).map (·.whole) = ranges := by
  simp [bare, Function.comp_def]

lemma run_keeper (fs : List (Fragment CharRange)) (kept : List CharRange) :
    keeper.run fs (kept, true) = ((matchedRanges fs).foldl keep kept, true) := by
  induction fs generalizing kept with
  | nil => rfl
  | cons f fs ih => cases f <;> simp [Visitor.offer, keeper, ih]

lemma restrict_bare_cons {selection : Selection} {count : ℕ} (h : selection.allows (count + 1))
    (stop previous : ℕ) (r : CharRange) (rs : List CharRange) :
    selection.restrict count (layout stop previous (bare (r :: rs))) =
      (if selection.allowsKind .unmatched && previous < r.start then
        [.unmatched (.ofBounds previous r.start)] else []) ++
      ((if selection.allowsKind .matched then [.matched r] else []) ++
        selection.restrict (count + 1) (layout stop r.stop (bare rs))) := by
  simp [bare, Selection.restrict_layout_cons h, groupsFrom]

lemma visitRanges_eq {selection : Selection} (visit : Visitor σ) (stop : ℕ) {count : ℕ}
    (h : selection.allows (count + 1)) (previous : ℕ) (rs : List CharRange) (s : σ) :
    (visitRanges selection visit stop count previous rs s).2 =
      (visit.run (selection.restrict count (layout stop previous (bare rs))) (s, true)).1 := by
  induction rs generalizing count previous s with
  | nil => simp [visitRanges, bare, Selection.restrict_layout_nil h, Visitor.offer_eq_run]
  | cons r rs ih =>
    simp only [visitRanges, restrict_bare_cons h, Visitor.run_append, ← Visitor.offer_eq_run]
    generalize visit.offer (selection.allowsKind .unmatched && previous < r.start)
      (.unmatched (.ofBounds previous r.start)) (s, true) = p
    obtain ⟨s₁, more₁⟩ := p
    cases more₁ with
    | false => simp [Visitor.offer, Visitor.run_stopped]
    | true =>
      generalize visit.offer (selection.allowsKind .matched) (.matched r) (s₁, true) = q
      obtain ⟨s₂, more₂⟩ := q
      cases more₂ with
      | false => simp [Visitor.run_stopped]
      | true =>
        by_cases hn : selection.allows (count + 2)
        · simpa [hn] using ih hn r.stop s₂
        · simp [hn, Selection.restrict_layout_full hn]

lemma visitRanges_count {selection : Selection} {visit : Visitor σ}
    (hv : ∀ f s, (visit f s).2 = true) (stop : ℕ) {count : ℕ} (h : selection.allows (count + 1))
    (previous : ℕ) (rs : List CharRange) (s : σ) :
    (visitRanges selection visit stop count previous rs s).1 = selection.clip (count + rs.length) := by
  induction rs generalizing count previous s with
  | nil => simpa [visitRanges] using
      (Selection.clip_of_allows (Selection.allows_of_succ h)).symm
  | cons r rs ih =>
    have h₁ := Visitor.offer_of_neverStops hv (selection.allowsKind .unmatched && previous < r.start)
      (.unmatched (.ofBounds previous r.start)) s
    have h₂ := Visitor.offer_of_neverStops hv (selection.allowsKind .matched) (.matched r)
      (visit.offer (selection.allowsKind .unmatched && previous < r.start)
        (.unmatched (.ofBounds previous r.start)) (s, true)).1
    simp only [visitRanges, h₁, h₂, Bool.not_true, Bool.false_eq_true, if_false, Bool.true_and,
      List.length_cons]
    by_cases hn : selection.allows (count + 2)
    · simpa [hn, Nat.add_assoc, Nat.add_comm 1] using ih hn r.stop _
    · simp only [hn]
      exact (Selection.clip_of_not_allows h hn (by omega)).symm

lemma visitUnmatched_eq (selection : Selection) (visit : Visitor σ) (t : Text) (s : σ) :
    (visitUnmatched selection visit t s).2 =
      (visit.run (if selection.allowsKind .unmatched then [.unmatched (.whole t)] else [])
        (s, true)).1 := by
  simp [visitUnmatched, Visitor.offer_eq_run]

lemma kind_of_mem_layout_bare {stop previous : ℕ} {rs : List CharRange} :
    ∀ f ∈ layout stop previous (bare rs), f.kind = .matched ∨ f.kind = .unmatched := by
  induction rs generalizing previous with
  | nil => exact fun f hf => Or.inr (kind_of_mem_gap f hf)
  | cons r rs ih =>
    intro f hf
    rcases List.mem_append.mp hf with hf | hf
    · exact Or.inr (kind_of_mem_gap f hf)
    · rcases List.mem_cons.mp hf with rfl | hf
      · exact Or.inl rfl
      · exact ih f hf

lemma restrict_bare_of_not_isVisible {selection : Selection} (h : isVisible selection = false)
    (stop : ℕ) (rs : List CharRange) :
    selection.restrict 0 (layout stop 0 (bare rs)) = [] := by
  by_cases ha : selection.allows 1
  · simp only [isVisible, ha, Bool.and_true, Bool.or_eq_false_iff] at h
    rw [List.eq_nil_iff_forall_not_mem]
    intro f hf
    obtain ⟨hmem, hkind⟩ := Selection.mem_restrict hf
    rcases kind_of_mem_layout_bare f hmem with hk | hk <;> simp_all
  · exact Selection.restrict_layout_full ha _ _ _

end Union

end PatternAlgebra
