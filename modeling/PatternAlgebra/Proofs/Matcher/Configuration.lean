import PatternAlgebra.Proofs.Matcher.Breakage
import PatternAlgebra.Proofs.Matcher.Fragments

/-! What a selection does to a stream. Whatever a matcher is made of, a selection shows the stream
without a selection, cut behind the last match that is allowed and filtered by kind, and counts
the matches up to the limit. Only a matcher that a client writes may do otherwise, and only where
it is not a part of another one. -/
namespace PatternAlgebra.Matcher

open Fragment

variable {σ : Type}

lemma ranges_everything_combination {m : Matcher} {ms : List Matcher} (h : Combines m ms) (t : Text) :
    m.ranges t .everything =
      if m.hasMatches t then layout t.length 0 (Union.bare (merged ms t))
      else [.unmatched (.whole t)] := by
  rw [ranges_combination h, Selection.restrict_everything]
  rfl

lemma ranges_everything_inversion (m : Matcher) (t : Text) :
    (inversion m).ranges t .everything = inverted t (m.ranges t .shallow) := by
  rw [ranges_inversion, Selection.restrict_everything]

lemma ranges_everything_nothing (t : Text) :
    nothing.ranges t .everything = [.unmatched (.whole t)] := ranges_nothing t .everything

lemma restrict_unmatched_whole {selection : Selection} (h : selection.allows 1) (t : Text) :
    selection.restrict 0 [.unmatched (.whole t)] =
      if selection.allowsKind .unmatched then [.unmatched (.whole t)] else [] := by
  simp [Selection.restrict_unmatched h]

/-- A selection that allows a match leaves its part of the stream. -/
theorem ranges_eq_restrict {m : Matcher} (hm : ∀ script, m ≠ .scripted script) (t : Text)
    {selection : Selection} (h : selection.allows 1) :
    m.ranges t selection = selection.restrict 0 (m.ranges t .everything) := by
  have hcomb {m : Matcher} {ms : List Matcher} (hc : Combines m ms) :
      m.ranges t selection = selection.restrict 0 (m.ranges t .everything) := by
    rw [ranges_everything_combination hc, ranges_combination hc]
    split_ifs <;> simp_all [restrict_unmatched_whole h]
  cases m with
  | regex r => rw [ranges_regex, ranges_regex, Selection.restrict_everything]
  | nothing => rw [ranges_everything_nothing, ranges_nothing, restrict_unmatched_whole h]
  | whole => rw [ranges_whole, ranges_whole, Selection.restrict_everything]
  | conjunction ms => exact hcomb (.conjunction ms)
  | disjunction ms => exact hcomb (.disjunction ms)
  | inversion m => rw [ranges_inversion, ranges_everything_inversion]
  | scripted script => exact absurd rfl (hm script)

/-- A selection that allows no match shows the target as unmatched at most. -/
lemma mem_ranges_full {m : Matcher} (hm : ∀ script, m ≠ .scripted script) {t : Text}
    {selection : Selection} (h : ¬selection.allows 1) {f : Fragment CharRange}
    (hf : f ∈ m.ranges t selection) : f = .unmatched (.whole t) ∧ selection.allowsKind .unmatched := by
  have hunmatched (hf : f ∈ if selection.allowsKind .unmatched then [.unmatched (.whole t)] else []) :
      f = .unmatched (.whole t) ∧ selection.allowsKind .unmatched := by
    split_ifs at hf with hkind
    · exact ⟨List.mem_singleton.mp hf, hkind⟩
    · contradiction
  have hcomb {m : Matcher} {ms : List Matcher} (hc : Combines m ms) (hf : f ∈ m.ranges t selection) :
      f = .unmatched (.whole t) ∧ selection.allowsKind .unmatched := by
    rw [ranges_combination hc, Selection.restrict_layout_full h] at hf
    split_ifs at hf with hhas hkind
    · contradiction
    · exact hunmatched (by rwa [if_pos hkind])
    · contradiction
  cases m with
  | regex r => simp [ranges_regex, Regex.restrict_shown_full h] at hf
  | nothing => exact hunmatched (ranges_nothing t selection ▸ hf)
  | whole =>
    have hopens : OpensRegion [.matched (.whole t)] := by simp [OpensRegion, kind]
    simp [ranges_whole, Selection.restrict_full h hopens] at hf
  | conjunction ms => exact hcomb (.conjunction ms) hf
  | disjunction ms => exact hcomb (.disjunction ms) hf
  | inversion m =>
    simp [ranges_inversion, Selection.restrict_full h (opensRegion_inverted t _)] at hf
  | scripted script => exact absurd rfl (hm script)

lemma matchedRanges_ranges_shallow {m : Matcher} (hm : ∀ script, m ≠ .scripted script) (t : Text) :
    matchedRanges (m.ranges t .shallow) = matchedRanges (m.ranges t .everything) := by
  rw [ranges_eq_restrict hm t (Selection.allows_shallow 1), Selection.restrict_shallow]
  exact matchedRanges_filter (fun _ => rfl) _

/-- A search for matches alone finds those of the stream, or the first ones where there is a
limit. -/
lemma matchRangesWith_matchedOnly {m : Matcher} (hm : ∀ script, m ≠ .scripted script) (t : Text)
    (limit : Option ℕ) (payload : Option Text) :
    m.matchRangesWith t { kinds := .matchedOnly, limit, payload } =
      (limit.elim id List.take (matchedRanges (m.ranges t .shallow))).map .matched := by
  set selection : Selection := { kinds := .matchedOnly, limit, payload }
  have hkind (f : Fragment CharRange) : selection.allowsKind f.kind = (f.kind == .matched) := by
    cases f <;> rfl
  change m.ranges t selection = _
  by_cases ha : selection.allows 1
  · rw [ranges_eq_restrict hm t ha, Selection.restrict, matchedRanges_ranges_shallow hm]
    simp only [hkind, filter_matched_eq_map, selection]
    cases limit with
    | none => rfl
    | some n => exact congrArg (List.map matched) (matchedRanges_upToMatch n _)
  · have hzero : limit = some 0 := by
      cases limit with
      | none => exact absurd rfl ha
      | some n => simpa [Selection.allows, selection] using ha
    have hnone : m.ranges t selection = [] := by
      rw [List.eq_nil_iff_forall_not_mem]
      intro f hf
      exact absurd (mem_ranges_full hm ha hf).2 Bool.false_ne_true
    rw [hnone, hzero, Option.elim, List.take_zero, List.map_nil]

lemma matchRanges_eq_map {m : Matcher} (hm : ∀ script, m ≠ .scripted script) (t : Text) :
    m.matchRanges t = (matchedRanges (m.ranges t .shallow)).map .matched :=
  matchRangesWith_matchedOnly hm t none none

lemma matchCount_bare (stop previous : ℕ) (rs : List CharRange) :
    matchCount (layout stop previous (Union.bare rs)) = rs.length := by
  rw [matchCount_layout, Union.bare, List.length_map]

lemma iterate_count_combination {m : Matcher} {ms : List Matcher} (hc : Combines m ms) (t : Text)
    {selection : Selection} (hk : selection.allowsKind .matched ∨ ¬selection.allows 1)
    {visit : Visitor σ} (hv : ∀ f s, (visit f s).2 = true) (s : σ) :
    (m.iterate t selection visit s).1 =
      selection.clip (matchCount (m.ranges t .everything)) := by
  rw [iterate_combination hc, ranges_everything_combination hc]
  by_cases hm : m.hasMatches t
  · by_cases ha : selection.allows 1
    · have hvis : Union.isVisible selection := by simp_all [Union.isVisible]
      have hcount := Union.visitRanges_count hv t.length ha 0
        (CharRange.sort (keepMatches ms t (Union.collecting selection) [])) s
      simpa [hm, hvis, matchCount_bare, merged_eq_keepMatches _ _ selection] using hcount
    · have hvis : Union.isVisible selection = false := by simp_all [Union.isVisible]
      simp [hm, hvis, Selection.clip_of_full ha]
  · simp [hm, Union.visitUnmatched, matchCount, kind]

lemma iterate_count_inversion (m : Matcher) (t : Text) (selection : Selection)
    {visit : Visitor σ} (hv : ∀ f s, (visit f s).2 = true) (s : σ) :
    ((inversion m).iterate t selection visit s).1 =
      selection.clip (matchCount ((inversion m).ranges t .everything)) := by
  rw [ranges_everything_inversion]
  by_cases ha : selection.allows 1
  · simp only [iterate, ha, if_true, iterate_eq_run, endRelay]
    cases hfs : m.ranges t .shallow with
    | nil =>
      have hone : matchCount (inverted t []) = 1 := by simp [inverted, matchCount, kind]
      rw [hone, Selection.clip_of_allows ha]
      rfl
    | cons f fs =>
      rw [if_pos (run_relay_reported selection visit _ _ _ (by simp))]
      simpa [inverted] using run_relay_count hv ha false (f :: fs) s
  · simp [iterate, ha, Selection.clip_of_full ha]

/-- A visitor that never stops makes the count that of all matches that the selection allows,
provided that the selection asks for matches or allows none. -/
theorem iterate_count {m : Matcher} (hm : ∀ script, m ≠ .scripted script) (t : Text)
    {selection : Selection} (hk : selection.allowsKind .matched ∨ ¬selection.allows 1)
    {visit : Visitor σ} (hv : ∀ f s, (visit f s).2 = true) (s : σ) :
    (m.iterate t selection visit s).1 =
      selection.clip (matchCount (m.ranges t .everything)) := by
  cases m with
  | regex r =>
    rw [iterate, ranges_regex, Selection.restrict_everything]
    exact r.iterate_count t selection hv s
  | nothing =>
    rw [iterate, ranges_everything_nothing]
    simp [Union.visitUnmatched, matchCount, kind]
  | whole =>
    have hone : matchCount (whole.ranges t .everything) = 1 := by
      simp [ranges_whole, matchCount, kind]
    rw [iterate, hone]
    by_cases ha : selection.allows 1
    · simp_all [Selection.clip_of_allows ha]
    · simp [ha, Selection.clip_of_full ha]
  | conjunction ms => exact iterate_count_combination (.conjunction ms) t hk hv s
  | disjunction ms => exact iterate_count_combination (.disjunction ms) t hk hv s
  | inversion m => exact iterate_count_inversion m t selection hv s
  | scripted script => exact absurd rfl (hm script)

/-- A visitor that never stops is shown, in turn, what the selection shows. That is all of the
stream that is of a kind it asks for, or, where the limit is reached, the part of it that ends with
the last match that is allowed and its groups. The count is that of the matches in that part. The
stream is not broken off if no search in the target is. -/
theorem iterate_filters_and_truncates {m : Matcher} (hm : ∀ script, m ≠ .scripted script) (t : Text)
    (selection : Selection) {visit : Visitor σ} (hv : ∀ f s, (visit f s).2 = true) (s : σ) :
    let all := m.ranges t .everything
    let shown := m.ranges t selection
    let wanted := fun f : Fragment CharRange => selection.allowsKind f.kind
    (m.iterate t selection visit s).2 = shown.foldl (fun s f => (visit f s).1) s ∧
      (Steady t m → m.iterateBreaks t selection visit s = false) ∧
      match selection.limit with
      | none =>
        shown = all.filter wanted ∧
          (selection.allowsKind .matched → (m.iterate t selection visit s).1 = matchCount all)
      | some 0 => matchCount shown = 0 ∧ (m.iterate t selection visit s).1 = 0
      | some (n + 1) =>
        (matchCount all < n + 1 → shown = all.filter wanted) ∧
        (n + 1 ≤ matchCount all → ∃ before r groups after,
          all = before ++ .matched r :: groups ++ after ∧ matchCount before = n ∧
            (∀ f ∈ groups, f.kind = .group) ∧ OpensRegion after ∧
            shown = (before ++ .matched r :: groups).filter wanted) ∧
        (selection.allowsKind .matched →
          (m.iterate t selection visit s).1 = min (matchCount all) (n + 1)) := by
  intro all shown wanted
  have hstate : (m.iterate t selection visit s).2 = shown.foldl (fun s f => (visit f s).1) s := by
    rw [iterate_eq_run, Visitor.run_of_neverStops hv]
  refine ⟨hstate, fun hsteady => hsteady.iterateBreaks selection visit s, ?_⟩
  cases hl : selection.limit with
  | none =>
    have ha : selection.allows 1 := Selection.allows_of_no_limit hl 1
    refine ⟨?_, fun hk => ?_⟩
    · exact (ranges_eq_restrict hm t ha).trans (Selection.restrict_of_no_limit hl all)
    · rw [iterate_count hm t (Or.inl hk) hv, Selection.clip, hl]
  | some limit =>
    cases limit with
    | zero =>
      have ha : ¬selection.allows 1 := by simp [Selection.allows, hl]
      refine ⟨?_, ?_⟩
      · simp only [matchCount, List.countP_eq_zero, beq_iff_eq]
        rintro f hf hkind
        rw [(mem_ranges_full hm ha hf).1] at hkind
        cases hkind
      · rw [iterate_count hm t (Or.inr ha) hv, Selection.clip_of_full ha]
    | succ n =>
      have ha : selection.allows 1 := by simp [Selection.allows, hl]
      have hshown : shown = (upToMatch (n + 1) all).filter wanted := by
        simpa [Selection.restrict, hl] using ranges_eq_restrict hm t ha
      refine ⟨fun hlt => ?_, fun hle => ?_, fun hk => ?_⟩
      · rw [hshown, upToMatch_of_lt hlt]
      · obtain ⟨before, r, groups, after, hall, hcount, hgroups, hopens, hcut⟩ :=
          exists_upToMatch_eq (by omega) hle
        exact ⟨before, r, groups, after, hall, by omega, hgroups, hopens, by rw [hshown, hcut]⟩
      · rw [iterate_count hm t (Or.inl hk) hv, Selection.clip, hl, min_comm]

/-- The gaps in `aba` that `b` leaves are its inversion's matches; a limit of one shows the first. -/
theorem iterate_filters_and_truncates_inversion :
    let m := inversion (regex (.letter 'b'))
    let selection : Selection := { kinds := .shallow, limit := some 1 }
    m.ranges ['a', 'b', 'a'] .everything =
        [.matched (.ofBounds 0 1), .unmatched (.ofBounds 1 2), .matched (.ofBounds 2 3)] ∧
      (m.iterate ['a', 'b', 'a'] selection Visitor.collect []).1 = 1 ∧
      (m.iterate ['a', 'b', 'a'] selection Visitor.collect []).2 = [.matched (.ofBounds 0 1)] ∧
      m.iterateBreaks ['a', 'b', 'a'] selection Visitor.collect [] = false := by
  intro m selection
  have hall : m.ranges ['a', 'b', 'a'] .everything =
      [.matched (.ofBounds 0 1), .unmatched (.ofBounds 1 2), .matched (.ofBounds 2 3)] := by
    decide +kernel
  have hshown : m.ranges ['a', 'b', 'a'] selection = [.matched (.ofBounds 0 1)] := by
    decide +kernel
  have hsteady : Steady ['a', 'b', 'a'] m := .inversion fun u _ => .of_not_canBreak rfl u
  have hstops : ∀ f s, (Visitor.collect f s).2 = true := fun _ _ => rfl
  obtain ⟨hstate, hreturns, -, -, hcount⟩ := iterate_filters_and_truncates (m := m) (by simp [m])
    ['a', 'b', 'a'] selection hstops []
  rw [hshown] at hstate
  rw [hall] at hcount
  exact ⟨hall, hcount rfl, hstate, hreturns hsteady⟩

end PatternAlgebra.Matcher
