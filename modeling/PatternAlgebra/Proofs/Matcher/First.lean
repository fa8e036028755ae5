import PatternAlgebra.Proofs.Matcher.Greedy
import PatternAlgebra.Proofs.Matcher.Locate
import PatternAlgebra.Proofs.Regex.Order

/-! The first match of a combination. `locate` compares the first matches of the children by where
they start, while the stream prefers earlier children wherever matches are in conflict. So no match
is shown before the one that is located, but that one may be missing from the stream, because it
gave way to a match of an earlier child, or stand behind an empty match at its start. -/
namespace PatternAlgebra

open Fragment

namespace CharRange

/-- A later match that starts further left than an earlier one covers it, and is in conflict with
whatever that one is in conflict with. -/
lemma EndsBehind.conflict {q f k : CharRange} (hq : q.EndsBehind f) (hlt : q.start < f.start)
    (h : k.Conflict f) : k.Conflict q := by
  obtain ⟨hstop, hempty⟩ := hq
  have hf := f.start_le_stop
  have hk := k.start_le_stop
  rcases h with rfl | ⟨p, hp, hpf⟩ | ⟨he, hl, hr⟩ | ⟨he, hl, hr⟩
  · rcases hk.lt_or_eq with hfull | he
    · exact Or.inr (Or.inl ⟨k.start, by omega, by omega⟩)
    · exact Or.inr (Or.inr (Or.inl ⟨he, hlt, by omega⟩))
  · exact Or.inr (Or.inl ⟨p, hp, by omega⟩)
  · exact Or.inr (Or.inr (Or.inl ⟨he, by omega, by omega⟩))
  · exact Or.inr (Or.inl ⟨f.start, by omega, by omega⟩)

end CharRange

namespace Union

open CharRange

lemma mem_foldl_keep_of_mem {kept : List CharRange} {k : CharRange} (h : k ∈ kept)
    (cs : List CharRange) : k ∈ cs.foldl keep kept := by
  induction cs generalizing kept with
  | nil => exact h
  | cons c cs ih => exact ih (mem_keep.mpr (Or.inl h))

lemma not_conflict_of_kept {cs : List CharRange} {r q : CharRange} (hr : r ∈ cs.foldl keep [])
    (hq : q ∈ cs.foldl keep []) (hne : r ≠ q) : ¬r.Conflict q :=
  have : Std.Symm fun r q : CharRange => ¬r.Conflict q := ⟨fun _ _ hc hs => hc hs.symm⟩
  (pairwise_foldl_keep List.Pairwise.nil cs).forall hr hq hne

/-- Each candidate is in conflict with what is kept, be it with itself. -/
lemma exists_conflict_of_mem {cs : List CharRange} {r : CharRange} (h : r ∈ cs) :
    ∃ k ∈ cs.foldl keep [], k.Conflict r := by
  obtain ⟨i, hi⟩ := List.mem_iff_getElem?.mp h
  by_cases hkeeps : Keeps cs i
  · exact ⟨r, (mem_foldl_keep cs r).mpr ⟨i, hi, hkeeps⟩, Or.inl rfl⟩
  · obtain ⟨j, -, hkeeps, q, hq, hc⟩ := exists_conflict_of_not_keeps hi hkeeps
    exact ⟨q, (mem_foldl_keep cs q).mpr ⟨j, hq, hkeeps⟩, hc⟩

/-- A candidate that is not yet kept is kept in the end if nothing that is kept before it is in
conflict with it. -/
lemma mem_foldl_keep_middle {before : List CharRange} {f : CharRange} (after : List CharRange)
    (hnew : f ∉ before.foldl keep []) :
    f ∈ (before ++ f :: after).foldl keep [] ↔
      ∀ k ∈ before.foldl keep [], ¬k.Conflict f := by
  have hsplit : (before ++ f :: after).foldl keep [] =
      after.foldl keep (keep (before.foldl keep []) f) := by
    rw [List.foldl_append, List.foldl_cons]
  constructor
  · intro hf k hk
    have hk' : k ∈ (before ++ f :: after).foldl keep [] := by
      rw [hsplit]
      exact mem_foldl_keep_of_mem (mem_keep.mpr (Or.inl hk)) after
    exact not_conflict_of_kept hk' hf (fun he => hnew (he ▸ hk))
  · intro hnone
    rw [hsplit]
    exact mem_foldl_keep_of_mem (mem_keep.mpr (Or.inr ⟨rfl, hnone⟩)) after

/-- Whatever follows in a list of matches, nothing is kept that starts further left than the first
of them, once that is kept or in conflict with what is kept. -/
lemma start_le_foldl_keep {x : ℕ} {f : CharRange} (hf : x ≤ f.start) {qs kept : List CharRange}
    (hqs : ∀ q ∈ qs, q.EndsBehind f) (hkept : ∀ k ∈ kept, x ≤ k.start)
    (hc : ∃ k ∈ kept, k.Conflict f) : ∀ k ∈ qs.foldl keep kept, x ≤ k.start := by
  induction qs generalizing kept with
  | nil => exact hkept
  | cons q qs ih =>
    obtain ⟨hq, hqs⟩ := List.forall_mem_cons.mp hqs
    obtain ⟨k, hk, hkf⟩ := hc
    refine ih hqs (fun k' hk' => ?_) ⟨k, mem_keep.mpr (Or.inl hk), hkf⟩
    rcases mem_keep.mp hk' with hk' | ⟨rfl, hnone⟩
    · exact hkept k' hk'
    · by_contra hlt
      exact hnone k hk (hq.conflict (by omega) hkf)

/-- The matches of one child, of which the first is not left of `x`. -/
lemma start_le_foldl_keep_child {x : ℕ} {qs kept : List CharRange}
    (hqs : qs.Pairwise fun m q => q.EndsBehind m) (hfirst : ∀ f ∈ qs.head?, x ≤ f.start)
    (hkept : ∀ k ∈ kept, x ≤ k.start) : ∀ k ∈ qs.foldl keep kept, x ≤ k.start := by
  cases qs with
  | nil => exact hkept
  | cons f qs =>
    have hf : x ≤ f.start := hfirst f rfl
    rw [List.foldl_cons]
    refine start_le_foldl_keep hf (List.pairwise_cons.mp hqs).1 (fun k hk => ?_) ?_
    · rcases mem_keep.mp hk with hk | ⟨rfl, -⟩
      · exact hkept k hk
      · exact hf
    · by_cases h : ∃ k ∈ kept, k.Conflict f
      · obtain ⟨k, hk, hc⟩ := h
        exact ⟨k, mem_keep.mpr (Or.inl hk), hc⟩
      · exact ⟨f, mem_keep.mpr (Or.inr ⟨rfl, fun k hk hc => h ⟨k, hk, hc⟩⟩), Or.inl rfl⟩

end Union

namespace Matcher

variable {m : Matcher} {ms : List Matcher} {t : Text}

/-- A matcher whose matches end one behind the other, and which locates the first of them. -/
structure Advances (t : Text) (m : Matcher) : Prop where
  locate : m.locate t = (matchedRanges (m.ranges t .matchesOnly)).head?
  endsBehind : (matchedRanges (m.ranges t .matchesOnly)).Pairwise fun r q => q.EndsBehind r

lemma matchedRanges_regex (r : Regex) (t : Text) :
    matchedRanges ((regex r).ranges t .matchesOnly) = (r.occurrences t).map (·.whole) := by
  rw [ranges_regex, Regex.shown]
  split
  · simp_all
  · rw [Selection.restrict_layout_matchesOnly, matchedRanges_map_matched]

lemma advances_regex (r : Regex) (t : Text) : (regex r).Advances t where
  locate := by rw [matchedRanges_regex, Matcher.locate, r.locate_eq, List.head?_map]
  endsBehind := by
    rw [matchedRanges_regex]
    exact r.pairwise_endsBehind t

/-- An empty match that starts no later than the first one is the first one. -/
lemma Advances.locate_of_empty (h : m.Advances t) {r : CharRange}
    (hr : r ∈ matchedRanges (m.ranges t .matchesOnly)) (hempty : r.start = r.stop)
    (hle : ∀ f, m.locate t = some f → r.start ≤ f.start) : m.locate t = some r := by
  have hends := h.endsBehind
  rw [h.locate] at hle ⊢
  cases hrs : matchedRanges (m.ranges t .matchesOnly) with
  | nil => simp [hrs] at hr
  | cons f rs =>
    rw [hrs] at hr hends hle
    rcases List.mem_cons.mp hr with rfl | hr
    · rfl
    · obtain ⟨hstop, hfull⟩ := (List.pairwise_cons.mp hends).1 r hr
      have hstart : r.start ≤ f.start := hle f rfl
      have hf := f.start_le_stop
      omega

lemma candidates_cons (m : Matcher) (ms : List Matcher) (t : Text) :
    candidates (m :: ms) t = matchedRanges (m.ranges t .matchesOnly) ++ candidates ms t :=
  List.flatMap_cons

lemma candidates_append (ms ns : List Matcher) (t : Text) :
    candidates (ms ++ ns) t = candidates ms t ++ candidates ns t := List.flatMap_append

/-- What is kept of the children's matches does not start before all that they locate. -/
lemma start_le_of_kept {x : ℕ} (hms : ∀ c ∈ ms, c.Advances t)
    (hx : ∀ c ∈ ms, ∀ f, c.locate t = some f → x ≤ f.start) {kept : List CharRange}
    (hkept : ∀ k ∈ kept, x ≤ k.start) :
    ∀ k ∈ (candidates ms t).foldl Union.keep kept, x ≤ k.start := by
  induction ms generalizing kept with
  | nil => exact hkept
  | cons c ms ih =>
    obtain ⟨hc, hms⟩ := List.forall_mem_cons.mp hms
    obtain ⟨hcx, hx⟩ := List.forall_mem_cons.mp hx
    rw [candidates_cons, List.foldl_append]
    refine ih hms hx (Union.start_le_foldl_keep_child hc.endsBehind (fun f hf => ?_) hkept)
    exact hcx f (hc.locate.trans hf)

/-- The first match of a child that leads those of its siblings: it starts before those of the
children in front of it and no later than those of the children behind it. -/
structure Leads (t : Text) (first : CharRange) (before : List Matcher) (c : Matcher)
    (after : List Matcher) : Prop where
  locate : c.locate t = some first
  before : ∀ d ∈ before, ∀ r, d.locate t = some r → first.start < r.start
  after : ∀ d ∈ after, ∀ r, d.locate t = some r → first.start ≤ r.start

/-- A combination locates the leading one of its children's first matches. -/
lemma exists_leads (h : Combines m ms) {first : CharRange} (hfirst : m.locate t = some first) :
    ∃ before c after, ms = before ++ c :: after ∧ Leads t first before c after := by
  rw [locate_combination h] at hfirst
  split_ifs at hfirst
  obtain ⟨rs, qs, hsplit, hrs, hqs⟩ := CharRange.earliest_eq_some hfirst
  obtain ⟨ds, es, rfl, rfl, hrest⟩ := List.filterMap_eq_append_iff.mp hsplit
  obtain ⟨ds', c, after, rfl, hnone, hc, rfl⟩ := List.filterMap_eq_cons_iff.mp hrest
  refine ⟨ds ++ ds', c, after, by rw [List.append_assoc], hc, fun d hd r hr => ?_,
    fun d hd r hr => ?_⟩
  · rcases List.mem_append.mp hd with hd | hd
    · exact hrs r (List.mem_filterMap.mpr ⟨d, hd, hr⟩)
    · exact absurd (hnone d hd) (by simp [hr])
  · exact hqs r (List.mem_filterMap.mpr ⟨d, hd, hr⟩)

namespace Leads

variable {first : CharRange} {before after : List Matcher} {c : Matcher}

lemma start_le (h : Leads t first before c after) :
    ∀ d ∈ before ++ c :: after, ∀ r, d.locate t = some r → first.start ≤ r.start := by
  intro d hd r hr
  rcases List.mem_append.mp hd with hd | hd
  · exact (h.before d hd r hr).le
  · rcases List.mem_cons.mp hd with rfl | hd
    · rw [Option.some.inj (h.locate.symm.trans hr)]
    · exact h.after d hd r hr

/-- No match that is shown starts before the leading one. -/
lemma start_le_of_mem_merged (h : Leads t first before c after)
    (hms : ∀ d ∈ before ++ c :: after, d.Advances t) :
    ∀ r ∈ merged (before ++ c :: after) t, first.start ≤ r.start :=
  fun r hr => start_le_of_kept hms h.start_le (by simp) r (mem_merged.mp hr)

/-- The leading match is shown if no match of the children in front that is shown without it is in
conflict with it. -/
lemma mem_merged_iff (h : Leads t first before c after)
    (hms : ∀ d ∈ before ++ c :: after, d.Advances t) :
    first ∈ merged (before ++ c :: after) t ↔ ∀ k ∈ merged before t, ¬k.Conflict first := by
  have hc : c.Advances t := hms c (by simp)
  obtain ⟨qs, hqs⟩ : ∃ qs, matchedRanges (c.ranges t .matchesOnly) = first :: qs :=
    List.head?_eq_some_iff.mp (hc.locate.symm.trans h.locate)
  have hcandidates : candidates (before ++ c :: after) t =
      candidates before t ++ first :: (qs ++ candidates after t) := by
    rw [candidates_append, candidates_cons, hqs, List.cons_append]
  have hnew : first ∉ (candidates before t).foldl Union.keep [] := by
    intro hmem
    have hlt : first.start + 1 ≤ first.start :=
      start_le_of_kept (fun d hd => hms d (List.mem_append_left _ hd)) h.before (by simp) first hmem
    omega
  simp only [mem_merged, hcandidates]
  exact Union.mem_foldl_keep_middle _ hnew

/-- An empty match at the start of the leading one is shown whenever a child locates it. -/
lemma empty_mem_merged (h : Leads t first before c after)
    (hms : ∀ d ∈ before ++ c :: after, d.Advances t) {d : Matcher} (hd : d ∈ before ++ c :: after)
    {e : CharRange} (he : d.locate t = some e) (hstart : e.start = first.start)
    (hempty : e.start = e.stop) : e ∈ merged (before ++ c :: after) t := by
  have hmem : e ∈ candidates (before ++ c :: after) t := by
    refine List.mem_flatMap.mpr ⟨d, hd, List.mem_of_mem_head? ?_⟩
    exact (hms d hd).locate.symm.trans he
  obtain ⟨k, hk, hc⟩ := Union.exists_conflict_of_mem hmem
  have hk' := mem_merged.mpr hk
  have hle := h.start_le_of_mem_merged hms k hk'
  rcases hc with rfl | ⟨p, hp, hpe⟩ | ⟨-, hl, hr⟩ | ⟨-, hl, hr⟩
  · exact hk'
  all_goals omega

/-- The leading match is the first one that is shown just if it is shown at all and there is no
empty match at its start. -/
lemma head?_merged_iff (h : Leads t first before c after)
    (hms : ∀ d ∈ before ++ c :: after, d.Advances t) :
    (merged (before ++ c :: after) t).head? = some first ↔
      first ∈ merged (before ++ c :: after) t ∧
        (first.start = first.stop ∨
          ∀ d ∈ before ++ c :: after, d.locate t ≠ some (.ofBounds first.start first.start)) := by
  have hle := first.start_le_stop
  have horder := pairwise_merged (before ++ c :: after) t
  constructor
  · intro hhead
    obtain ⟨rs, hrs⟩ := List.head?_eq_some_iff.mp hhead
    refine ⟨List.mem_of_mem_head? hhead, or_iff_not_imp_left.mpr fun hfull d hd he => ?_⟩
    have hmem := h.empty_mem_merged hms hd he rfl (by simp [CharRange.ofBounds])
    rw [hrs] at hmem horder
    rcases List.mem_cons.mp hmem with heq | hmem
    · exact hfull (by rw [← heq]; simp [CharRange.ofBounds])
    · have hstop := ((List.pairwise_cons.mp horder).1 _ hmem).1
      exact hfull (le_antisymm hle hstop)
  · rintro ⟨hmem, hcond⟩
    have hstarts := h.start_le_of_mem_merged hms
    cases hrs : merged (before ++ c :: after) t with
    | nil => simp [hrs] at hmem
    | cons r rs =>
      have hr : r ∈ merged (before ++ c :: after) t := hrs ▸ List.mem_cons_self
      rw [List.head?_cons, Option.some.injEq]
      by_contra hne
      rw [hrs] at hmem horder
      have hfirst := (List.mem_cons.mp hmem).resolve_left (Ne.symm hne)
      obtain ⟨hstop, -⟩ := (List.pairwise_cons.mp horder).1 first hfirst
      -- what comes before the leading match is an empty one at its start, which a child locates
      have hr' := r.start_le_stop
      have hstart := hstarts r hr
      have heq : r = .ofBounds first.start first.start :=
        CharRange.ext (by simp [CharRange.ofBounds]; omega) (by simp [CharRange.ofBounds]; omega)
      obtain ⟨d, hd, hrd⟩ :=
        List.mem_flatMap.mp (Union.mem_of_mem_foldl_keep (mem_merged.mp hr))
      have hlocate : d.locate t = some r :=
        (hms d hd).locate_of_empty hrd (by omega) fun f hf => by have := h.start_le d hd f hf; omega
      rcases hcond with hempty | hcond
      · exact hne (CharRange.ext (by omega) (by omega))
      · exact hcond d hd (heq ▸ hlocate)

end Leads

lemma ranges_combination_eq_map (h : Combines m ms) (t : Text) (payload : Option Text) :
    m.ranges t { Selection.matchesOnly with payload } =
      (if m.hasMatches t then merged ms t else []).map .matched := by
  split_ifs with hm
  · exact ranges_matchesOnly_combination h hm payload
  · rw [ranges_payload, ranges_combination h, if_neg hm]
    rfl

lemma matchedRanges_combination (h : Combines m ms) (t : Text) (payload : Option Text) :
    matchedRanges (m.ranges t { Selection.matchesOnly with payload }) =
      if m.hasMatches t then merged ms t else [] := by
  rw [ranges_combination_eq_map h, matchedRanges_map_matched]

lemma shown_combination (h : Combines m ms) (t : Text) :
    matchedRanges (m.ranges t .matchesOnly) = if m.hasMatches t then merged ms t else [] :=
  matchedRanges_combination h t none

/-- The first of a combination's matches as text, against the first of their ranges. -/
lemma head?_allMatches_combination (h : Combines m ms) (t : Text) :
    (m.allMatches t).head?.map content =
      (matchedRanges (m.ranges t .matchesOnly)).head?.map (·.slice t) := by
  have hmatches : m.allMatches t =
      ((if m.hasMatches t then merged ms t else []).map .matched).map (substring t) :=
    congrArg (List.map (substring t)) (ranges_combination_eq_map h t none)
  rw [hmatches, shown_combination h]
  cases (if m.hasMatches t then merged ms t else []) <;> rfl

/-- Children that have a match show one together. -/
lemma merged_ne_nil {c : Matcher} (hc : c ∈ ms) (hadvances : c.Advances t) {first : CharRange}
    (hfirst : c.locate t = some first) : merged ms t ≠ [] := by
  have hmem : first ∈ candidates ms t :=
    List.mem_flatMap.mpr ⟨c, hc, List.mem_of_mem_head? (hadvances.locate.symm.trans hfirst)⟩
  obtain ⟨k, hk, -⟩ := Union.exists_conflict_of_mem hmem
  exact List.ne_nil_of_mem (mem_merged.mpr hk)

lemma locate_combination_eq_none_iff (h : Combines m ms) (hms : ∀ c ∈ ms, c.Advances t) :
    m.locate t = none ↔ (if m.hasMatches t then merged ms t else []) = [] := by
  have hsome := hasMatches_eq_isSome_locate m t
  split_ifs with hm
  · obtain ⟨first, hfirst⟩ := Option.isSome_iff_exists.mp (hsome ▸ hm)
    obtain ⟨before, c, after, rfl, hleads⟩ := exists_leads h hfirst
    have hc : c ∈ before ++ c :: after := by simp
    simp [hfirst, merged_ne_nil hc (hms c hc) hleads.locate]
  · simpa [hm] using hsome.symm

/-- The matches of a combination of regular expressions, of which it locates one just if there are
any. That one is the leading first match of a child, no match is shown in front of it, and it is the
first that is shown just if nothing that is shown of the children before its own is in conflict with
it and, unless it is empty, no child's first match is the empty range at its start. -/
theorem locate_combination_iff (h : Combines m ms) (hms : ∀ c ∈ ms, ∃ r, c = regex r) (t : Text)
    (payload : Option Text) :
    let shown := matchedRanges (m.ranges t { Selection.matchesOnly with payload })
    (m.locate t = none ↔ shown = []) ∧
      (∀ first, m.locate t = some first →
        ∃ before c after, ms = before ++ c :: after ∧ Leads t first before c after ∧
          (∀ r ∈ shown, first.start ≤ r.start) ∧
          (shown.head? = some first ↔ (∀ k ∈ merged before t, ¬k.Conflict first) ∧
            (first.start = first.stop ∨
              ∀ d ∈ ms, d.locate t ≠ some (.ofBounds first.start first.start)))) ∧
      (shown.head? = m.locate t → m.first t = (m.allMatches t).head?.map content) := by
  intro shown
  have hadvances : ∀ c ∈ ms, c.Advances t := by
    intro c hc
    obtain ⟨r, rfl⟩ := hms c hc
    exact advances_regex r t
  have hshown : shown = if m.hasMatches t then merged ms t else [] :=
    matchedRanges_combination h t payload
  refine ⟨?_, fun first hfirst => ?_, fun hhead => ?_⟩
  · rw [hshown]
    exact locate_combination_eq_none_iff h hadvances
  · obtain ⟨before, c, after, rfl, hleads⟩ := exists_leads h hfirst
    have hm : m.hasMatches t := by simp [hasMatches_eq_isSome_locate, hfirst]
    rw [if_pos hm] at hshown
    refine ⟨before, c, after, rfl, hleads, ?_, ?_⟩
    · rw [hshown]
      exact hleads.start_le_of_mem_merged hadvances
    · rw [hshown, hleads.head?_merged_iff hadvances, hleads.mem_merged_iff hadvances]
  · have hpayload : shown = matchedRanges (m.ranges t .matchesOnly) :=
      congrArg matchedRanges (ranges_payload m t .matchesOnly payload)
    rw [head?_allMatches_combination h, ← hpayload, hhead]
    rfl

/-- In `ab` the match of `a` is located and shown first although `b` is the first child. -/
theorem locate_combination_iff_letters :
    let ms := [regex (.letter 'b'), regex (.letter 'a')]
    (∀ c ∈ ms, ∃ r, c = regex r) ∧
      (disjunction ms).locate ['a', 'b'] = some (.ofBounds 0 1) ∧
      (∃ before c after, ms = before ++ c :: after ∧
        Leads ['a', 'b'] (.ofBounds 0 1) before c after) ∧
      (disjunction ms).first ['a', 'b'] =
        ((disjunction ms).allMatches ['a', 'b']).head?.map content := by
  intro ms
  have hms : ∀ c ∈ ms, ∃ r, c = regex r := by simp [ms]
  obtain ⟨-, hfirst, htext⟩ := locate_combination_iff (.disjunction ms) hms ['a', 'b'] none
  have hlocate : (disjunction ms).locate ['a', 'b'] = some (.ofBounds 0 1) := by decide +kernel
  obtain ⟨before, c, after, hsplit, hleads, -⟩ := hfirst _ hlocate
  exact ⟨hms, hlocate, ⟨before, c, after, hsplit, hleads⟩, htext (by cbv)⟩

/-- In `abcd` the match of `abc` is located, but the one of `bcd` is shown, whose expression comes
first. -/
theorem locate_combination_overlapping :
    ∃ bcd abc : Regex, Regex.compile? "bcd".toList (.ofCase true) = some bcd ∧
      Regex.compile? "abc".toList (.ofCase true) = some abc ∧
      (disjunction [regex bcd, regex abc]).locate "abcd".toList = some (.ofBounds 0 3) ∧
      (disjunction [regex bcd, regex abc]).ranges "abcd".toList .matchesOnly =
        [.matched (.ofBounds 1 4)] ∧
      (disjunction [regex bcd, regex abc]).first "abcd".toList = some "abc".toList ∧
      (disjunction [regex bcd, regex abc]).allMatches "abcd".toList =
        [.matched "bcd".toList] := by
  refine ⟨(Regex.compile? "bcd".toList (.ofCase true)).get (by decide +kernel),
    (Regex.compile? "abc".toList (.ofCase true)).get (by decide +kernel), ?_⟩
  refine ⟨?_, ?_, ?_, ?_, ?_, ?_⟩ <;> decide +kernel

end Matcher

end PatternAlgebra
