import PatternAlgebra.Matcher.Query
import PatternAlgebra.Proofs.Matcher.Union
import PatternAlgebra.Proofs.Regex.Fragments

/-! The stream of a matcher. `iterate` is the same as running the visitor over the list of
fragments that a visitor without end collects, for every matcher and every visitor; the lists of
combinations are given by equations over those of their children. -/
namespace PatternAlgebra

open Fragment

/-- Induction over the tree of a matcher. -/
@[induction_eliminator]
theorem Matcher.induction {motive : Matcher → Prop} (regex : ∀ r, motive (.regex r))
    (nothing : motive .nothing) (whole : motive .whole)
    (conjunction : ∀ ms, (∀ m ∈ ms, motive m) → motive (.conjunction ms))
    (disjunction : ∀ ms, (∀ m ∈ ms, motive m) → motive (.disjunction ms))
    (inversion : ∀ m, motive m → motive (.inversion m))
    (scripted : ∀ s, motive (.scripted s)) : ∀ m, motive m :=
  Matcher.rec (motive_1 := motive) (motive_2 := fun ms => ∀ m ∈ ms, motive m)
    regex nothing whole conjunction disjunction inversion scripted (by simp)
    fun _ _ hm hms => List.forall_mem_cons.mpr ⟨hm, hms⟩

namespace Script

variable {σ : Type}

/-- What is shown of the rest of the fragments, of which `count` were matches so far. -/
def shown (ignoreKinds : Bool) (selection : Selection) :
    (count : ℕ) → List (Fragment CharRange) → List (Fragment CharRange)
  | _, [] => []
  | count, f :: fs =>
    let isMatch := f.kind == .matched
    if isMatch && !selection.allows (count + 1) then []
    else
      (if ignoreKinds || selection.allowsKind f.kind then [f] else []) ++
        shown ignoreKinds selection (if isMatch then count + 1 else count) fs

lemma visitFragments_eq (ignoreKinds : Bool) (selection : Selection) (visit : Visitor σ) (count : ℕ)
    (fs : List (Fragment CharRange)) (s : σ) :
    (visitFragments ignoreKinds selection visit count fs s).2 =
      (visit.run (shown ignoreKinds selection count fs) (s, true)).1 := by
  induction fs generalizing count s with
  | nil => rfl
  | cons f fs ih =>
    by_cases hstop : (f.kind == .matched && !selection.allows (count + 1)) = true
    · simp [visitFragments, shown, hstop]
    · simp only [visitFragments, shown, hstop, Bool.false_eq_true, if_false, Visitor.run_append,
        ← Visitor.offer_eq_run]
      generalize visit.offer (ignoreKinds || selection.allowsKind f.kind) f (s, true) = p
      obtain ⟨s', more⟩ := p
      cases more with
      | false => simp [Visitor.run_stopped]
      | true => simpa using ih _ s'

lemma shown_payload (ignoreKinds : Bool) (selection : Selection) (payload : Option Text) (count : ℕ)
    (fs : List (Fragment CharRange)) :
    shown ignoreKinds { selection with payload } count fs = shown ignoreKinds selection count fs := by
  induction fs generalizing count with
  | nil => rfl
  | cons f fs ih => simp only [shown, ih]; rfl

end Script

namespace Matcher

variable {σ : Type}

lemma ranges_eq_of_run {m : Matcher} {t : Text} {selection : Selection}
    {fs : List (Fragment CharRange)}
    (h : ∀ {σ : Type} (visit : Visitor σ) (s : σ),
      (m.iterate t selection visit s).2 = (visit.run fs (s, true)).1) :
    m.ranges t selection = fs := by
  simp [ranges, h, Visitor.run_collect]

/-- A stream with the roles of matched and unmatched swapped, without its groups. -/
def swapped (fs : List (Fragment CharRange)) : List (Fragment CharRange) :=
  fs.filterMap fun
    | .matched range => some (.unmatched range)
    | .unmatched range => some (.matched range)
    | .group _ _ => none

@[simp] lemma swapped_nil : swapped [] = [] := rfl

@[simp] lemma swapped_matched (r : CharRange) (fs : List (Fragment CharRange)) :
    swapped (.matched r :: fs) = .unmatched r :: swapped fs := rfl

@[simp] lemma swapped_unmatched (r : CharRange) (fs : List (Fragment CharRange)) :
    swapped (.unmatched r :: fs) = .matched r :: swapped fs := rfl

@[simp] lemma swapped_group (r : CharRange) (id : ℕ) (fs : List (Fragment CharRange)) :
    swapped (.group r id :: fs) = swapped fs := rfl

/-- The stream of an inversion, whose source has the stream `fs`. -/
def inverted (t : Text) : List (Fragment CharRange) → List (Fragment CharRange)
  | [] => [.matched (.whole t)]
  | f :: fs => swapped (f :: fs)

lemma inverted_of_ne_nil {t : Text} {fs : List (Fragment CharRange)} (h : fs ≠ []) :
    inverted t fs = swapped fs := by
  cases fs with
  | nil => contradiction
  | cons f fs => rfl

lemma kind_of_mem_swapped {f : Fragment CharRange} {fs : List (Fragment CharRange)}
    (h : f ∈ swapped fs) : f.kind ≠ .group := by
  obtain ⟨g, -, hg⟩ := List.mem_filterMap.mp h
  cases g <;> simp at hg <;> simp [← hg, kind]

lemma kind_of_mem_inverted {t : Text} {f : Fragment CharRange} {fs : List (Fragment CharRange)}
    (h : f ∈ inverted t fs) : f.kind ≠ .group := by
  cases fs with
  | nil =>
    obtain rfl := List.mem_singleton.mp h
    simp [kind]
  | cons g fs => exact kind_of_mem_swapped h

lemma opensRegion_swapped (fs : List (Fragment CharRange)) : OpensRegion (swapped fs) :=
  fun _ hf => kind_of_mem_swapped (List.mem_of_mem_head? hf)

lemma opensRegion_inverted (t : Text) (fs : List (Fragment CharRange)) :
    OpensRegion (inverted t fs) :=
  fun _ hf => kind_of_mem_inverted (List.mem_of_mem_head? hf)

lemma run_relay_state {selection : Selection} (visit : Visitor σ) {count : ℕ}
    (h : selection.allows (count + 1)) (reported : Bool) (fs : List (Fragment CharRange)) (s : σ) :
    ((relay selection visit).run fs (⟨s, count, reported⟩, true)).1.state =
      (visit.run (selection.restrict count (swapped fs)) (s, true)).1 := by
  induction fs generalizing count reported s with
  | nil => simp
  | cons f fs ih =>
    cases f with
    | matched r =>
      simp only [swapped_matched, Selection.restrict_unmatched h, Visitor.run_append,
        ← Visitor.offer_eq_run, Visitor.run_cons, Visitor.offer_true, relay]
      generalize visit.offer (selection.allowsKind .unmatched) (.unmatched r) (s, true) = p
      obtain ⟨s', more⟩ := p
      cases more with
      | false => simp [Visitor.run_stopped]
      | true => simpa [h] using ih h true s'
    | unmatched r =>
      simp only [swapped_unmatched, Selection.restrict_matched h, Visitor.run_append,
        ← Visitor.offer_eq_run, Visitor.run_cons, Visitor.offer_true, relay]
      generalize visit.offer (selection.allowsKind .matched) (.matched r) (s, true) = p
      obtain ⟨s', more⟩ := p
      cases more with
      | false => simp [Visitor.run_stopped]
      | true =>
        by_cases hn : selection.allows (count + 2)
        · simpa [hn] using ih hn true s'
        · simp [hn, Visitor.run_stopped, Selection.restrict_full hn (opensRegion_swapped fs)]
    | group r id => simpa [h, Visitor.offer_true, relay] using ih h true s

lemma run_relay_reported (selection : Selection) (visit : Visitor σ) (r : Relay σ) (more : Bool)
    (fs : List (Fragment CharRange)) (h : r.reported = true ∨ fs ≠ [] ∧ more = true) :
    ((relay selection visit).run fs (r, more)).1.reported = true := by
  induction fs generalizing r more with
  | nil => simpa using h
  | cons f fs ih =>
    cases more with
    | false => simpa [Visitor.run_stopped] using h
    | true =>
      rw [Visitor.run_cons, Visitor.offer_true]
      exact ih _ _ (Or.inl (by cases f <;> rfl))

lemma run_relay_count {selection : Selection} {visit : Visitor σ}
    (hv : ∀ f s, (visit f s).2 = true) {count : ℕ} (h : selection.allows (count + 1))
    (reported : Bool) (fs : List (Fragment CharRange)) (s : σ) :
    ((relay selection visit).run fs (⟨s, count, reported⟩, true)).1.count =
      selection.clip (count + matchCount (swapped fs)) := by
  induction fs generalizing count reported s with
  | nil => exact (Selection.clip_of_allows (Selection.allows_of_succ h)).symm
  | cons f fs ih =>
    cases f with
    | matched r =>
      have hmore := Visitor.offer_of_neverStops hv (selection.allowsKind .unmatched) (.unmatched r) s
      have hcount : matchCount (swapped (.matched r :: fs)) = matchCount (swapped fs) := by
        simp [matchCount, kind]
      simp only [Visitor.run_cons, Visitor.offer_true, relay, hmore, h, Bool.and_self, hcount]
      exact ih h true _
    | unmatched r =>
      have hmore := Visitor.offer_of_neverStops hv (selection.allowsKind .matched) (.matched r) s
      have hcount : matchCount (swapped (.unmatched r :: fs)) = 1 + matchCount (swapped fs) := by
        simp [matchCount, kind, Nat.add_comm]
      simp only [Visitor.run_cons, Visitor.offer_true, relay, hmore, Bool.true_and, hcount,
        ← Nat.add_assoc]
      by_cases hn : selection.allows (count + 2)
      · simpa only [hn] using ih hn true _
      · rw [Visitor.run_stopped _ _ (by simpa using hn)]
        exact (Selection.clip_of_not_allows h hn (by omega)).symm
    | group r id =>
      simp only [Visitor.run_cons, Visitor.offer_true, relay, h, swapped_group]
      exact ih h true s

/-- A matcher that shows the union of the matches of its children. -/
inductive Combines : Matcher → List Matcher → Prop
  | conjunction (ms : List Matcher) : Combines (.conjunction ms) ms
  | disjunction (ms : List Matcher) : Combines (.disjunction ms) ms

lemma iterate_combination {m : Matcher} {ms : List Matcher} (h : Combines m ms) (t : Text)
    (selection : Selection) (visit : Visitor σ) (s : σ) :
    m.iterate t selection visit s =
      if !m.hasMatches t then Union.visitUnmatched selection visit t s
      else if !Union.isVisible selection then (0, s)
      else
        Union.visitRanges selection visit t.length 0 0
          (CharRange.sort (keepMatches ms t (Union.collecting selection) [])) s := by
  cases h <;> rw [iterate]

lemma iterate_combination_eq_run {m : Matcher} {ms : List Matcher} (h : Combines m ms) (t : Text)
    (selection : Selection) (visit : Visitor σ) (s : σ) :
    (m.iterate t selection visit s).2 =
      (visit.run (if m.hasMatches t then
          selection.restrict 0 (layout t.length 0
            (Union.bare (CharRange.sort (keepMatches ms t (Union.collecting selection) []))))
        else if selection.allowsKind .unmatched then [.unmatched (.whole t)] else []) (s, true)).1 := by
  rw [iterate_combination h]
  by_cases hm : m.hasMatches t
  · by_cases hvis : Union.isVisible selection
    · have ha : selection.allows 1 := by simp_all [Union.isVisible]
      simpa [hm, hvis] using Union.visitRanges_eq visit t.length ha 0 _ s
    · have hnone := Union.restrict_bare_of_not_isVisible (by simpa using hvis) t.length
        (CharRange.sort (keepMatches ms t (Union.collecting selection) []))
      simp [hm, hvis, hnone]
  · simpa [hm] using Union.visitUnmatched_eq selection visit t s

lemma iterate_inversion_eq_run {m : Matcher} (t : Text) (selection : Selection) (visit : Visitor σ)
    (s : σ) (h : (m.iterate t .shallow (relay selection visit) { state := s }).2 =
      ((relay selection visit).run (m.ranges t .shallow) ({ state := s }, true)).1) :
    ((inversion m).iterate t selection visit s).2 =
      (visit.run (selection.restrict 0 (inverted t (m.ranges t .shallow))) (s, true)).1 := by
  by_cases ha : selection.allows 1
  · simp only [iterate, ha, if_true, h, endRelay]
    cases hfs : m.ranges t .shallow with
    | nil => simp [inverted, Selection.restrict_matched ha, Visitor.offer_eq_run]
    | cons f fs =>
      rw [if_pos (run_relay_reported selection visit _ _ _ (by simp))]
      exact run_relay_state visit ha false (f :: fs) s
  · simp [iterate, ha, Selection.restrict_full ha (opensRegion_inverted t _)]

lemma iterate_whole_eq_run (t : Text) (selection : Selection) (visit : Visitor σ) (s : σ) :
    (whole.iterate t selection visit s).2 =
      (visit.run (selection.restrict 0 [.matched (.whole t)]) (s, true)).1 := by
  rw [iterate]
  by_cases ha : selection.allows 1
  · by_cases hk : selection.allowsKind .matched <;>
      simp [ha, hk, Selection.restrict_matched ha, Visitor.offer_true]
  · have hopens : OpensRegion [.matched (.whole t)] := by simp [OpensRegion, kind]
    simp [ha, Selection.restrict_full ha hopens]

/-- Whatever the visitor does, it is shown the stream that a visitor without end collects, up to
the fragment at which it stops. -/
theorem iterate_eq_run (m : Matcher) (t : Text) (selection : Selection) (visit : Visitor σ) (s : σ) :
    (m.iterate t selection visit s).2 = (visit.run (m.ranges t selection) (s, true)).1 := by
  -- a list that explains every visitor is the one that the collecting visitor finds
  suffices h : ∃ fs, ∀ {σ : Type} (visit : Visitor σ) (s : σ),
      (m.iterate t selection visit s).2 = (visit.run fs (s, true)).1 by
    obtain ⟨fs, hfs⟩ := h
    rw [ranges_eq_of_run hfs, hfs]
  clear visit s
  induction m generalizing selection with
  | regex r =>
    exact ⟨_, fun visit s => by rw [iterate]; exact r.iterate_eq_run t selection visit s⟩
  | nothing => exact ⟨_, fun visit s => by rw [iterate]; exact Union.visitUnmatched_eq _ visit t s⟩
  | whole => exact ⟨_, iterate_whole_eq_run t selection⟩
  | conjunction ms _ => exact ⟨_, iterate_combination_eq_run (.conjunction ms) t selection⟩
  | disjunction ms _ => exact ⟨_, iterate_combination_eq_run (.disjunction ms) t selection⟩
  | inversion m ih =>
    obtain ⟨fs, hfs⟩ := ih .shallow
    refine ⟨_, fun visit s => iterate_inversion_eq_run t selection visit s ?_⟩
    rw [ranges_eq_of_run hfs, hfs]
  | scripted script =>
    exact ⟨_, fun visit s => by
      rw [iterate]; exact Script.visitFragments_eq _ selection visit 0 script.fragments s⟩

lemma ranges_regex (r : Regex) (t : Text) (selection : Selection) :
    (regex r).ranges t selection = selection.restrict 0 (r.shown t) :=
  ranges_eq_of_run fun visit s => by rw [iterate]; exact r.iterate_eq_run t selection visit s

lemma ranges_nothing (t : Text) (selection : Selection) :
    nothing.ranges t selection =
      if selection.allowsKind .unmatched then [.unmatched (.whole t)] else [] :=
  ranges_eq_of_run fun visit s => by rw [iterate]; exact Union.visitUnmatched_eq _ visit t s

lemma ranges_whole (t : Text) (selection : Selection) :
    whole.ranges t selection = selection.restrict 0 [.matched (.whole t)] :=
  ranges_eq_of_run (iterate_whole_eq_run t selection)

lemma ranges_inversion (m : Matcher) (t : Text) (selection : Selection) :
    (inversion m).ranges t selection =
      selection.restrict 0 (inverted t (m.ranges t .shallow)) :=
  ranges_eq_of_run fun visit s =>
    iterate_inversion_eq_run t selection visit s (iterate_eq_run m t .shallow _ _)

lemma ranges_scripted (script : Script) (t : Text) (selection : Selection) :
    (scripted script).ranges t selection =
      Script.shown script.ignoreKinds selection 0 script.fragments :=
  ranges_eq_of_run fun visit s => by
    rw [iterate]; exact Script.visitFragments_eq _ selection visit 0 script.fragments s

lemma keepMatches_eq (ms : List Matcher) (t : Text) (selection : Selection) (kept : List CharRange) :
    keepMatches ms t selection kept =
      (ms.flatMap fun m => matchedRanges (m.ranges t selection)).foldl Union.keep kept := by
  induction ms generalizing kept with
  | nil => simp [keepMatches]
  | cons m ms ih =>
    rw [keepMatches, ih, iterate_eq_run, Union.run_keeper, List.flatMap_cons, List.foldl_append]

/-- The matches of the children in the order in which a union considers them. -/
def candidates (ms : List Matcher) (t : Text) : List CharRange :=
  ms.flatMap fun m => matchedRanges (m.ranges t .matchesOnly)

/-- The matches of a union, in ascending order. -/
def merged (ms : List Matcher) (t : Text) : List CharRange :=
  CharRange.sort ((candidates ms t).foldl Union.keep [])

lemma ranges_combination_of_keepMatches {m : Matcher} {ms : List Matcher} (h : Combines m ms)
    (t : Text) (selection : Selection) :
    m.ranges t selection =
      if m.hasMatches t then
        selection.restrict 0 (layout t.length 0
          (Union.bare (CharRange.sort (keepMatches ms t (Union.collecting selection) []))))
      else if selection.allowsKind .unmatched then [.unmatched (.whole t)] else [] :=
  ranges_eq_of_run (iterate_combination_eq_run h t selection)

lemma ranges_combination_payload {m : Matcher} {ms : List Matcher} (h : Combines m ms) (t : Text)
    (selection : Selection) (payload : Option Text)
    (ih : ∀ c ∈ ms, ∀ selection : Selection,
      c.ranges t { selection with payload } = c.ranges t selection) :
    m.ranges t { selection with payload } = m.ranges t selection := by
  have hkeep : keepMatches ms t { Union.collecting selection with payload } [] =
      keepMatches ms t (Union.collecting selection) [] := by
    rw [keepMatches_eq, keepMatches_eq]
    congr 1
    exact List.flatMap_congr fun c hc => by rw [ih c hc]
  simp only [ranges_combination_of_keepMatches h, ← hkeep]
  rfl

theorem ranges_payload (m : Matcher) (t : Text) (selection : Selection) (payload : Option Text) :
    m.ranges t { selection with payload } = m.ranges t selection := by
  induction m generalizing selection with
  | regex r => simp only [ranges_regex]; rfl
  | nothing => simp only [ranges_nothing]; rfl
  | whole => simp only [ranges_whole]; rfl
  | inversion m _ => simp only [ranges_inversion]; rfl
  | conjunction ms ih => exact ranges_combination_payload (.conjunction ms) t selection payload ih
  | disjunction ms ih => exact ranges_combination_payload (.disjunction ms) t selection payload ih
  | scripted script =>
    rw [ranges_scripted, ranges_scripted, Script.shown_payload]

lemma merged_eq_keepMatches (ms : List Matcher) (t : Text) (selection : Selection) :
    merged ms t = CharRange.sort (keepMatches ms t (Union.collecting selection) []) := by
  have hsame : (ms.flatMap fun c => matchedRanges (c.ranges t (Union.collecting selection))) =
      candidates ms t :=
    List.flatMap_congr fun c _ => congrArg matchedRanges (ranges_payload c t .matchesOnly _)
  rw [keepMatches_eq, hsame, merged]

/-- A combination shows the stream of its merged matches, or all of the target as unmatched. -/
theorem ranges_combination {m : Matcher} {ms : List Matcher} (h : Combines m ms) (t : Text)
    (selection : Selection) :
    m.ranges t selection =
      if m.hasMatches t then
        selection.restrict 0 (layout t.length 0 (Union.bare (merged ms t)))
      else if selection.allowsKind .unmatched then [.unmatched (.whole t)] else [] := by
  rw [ranges_combination_of_keepMatches h, merged_eq_keepMatches ms t selection]

end Matcher

end PatternAlgebra
