import PatternAlgebra.Proofs.Matcher.Breakage
import PatternAlgebra.Proofs.Matcher.Union
import PatternAlgebra.Proofs.Regex.Order

/-! The stream of a regular expression against what the engine reports. Each event gives the text in
front of it, its match and the groups that took part in it, whose ends are converted one by one from
the beginning of the target, so groups in front of the match or behind it come out right as well. -/
namespace PatternAlgebra

open Engine Fragment

lemma groupsFrom_eq_filterMap (id : ℕ) (groups : List (Option CharRange)) :
    groupsFrom id groups = (groups.zipIdx id).filterMap fun (range?, n) => range?.map (.group · n) := by
  induction groups generalizing id with
  | nil => rfl
  | cons g groups ih => cases g <;> simp [groupsFrom, ih]

lemma matchedRanges_gap_append (previous start : ℕ) (fs : List (Fragment CharRange)) :
    matchedRanges (gap previous start ++ fs) = matchedRanges fs := by
  unfold gap
  split_ifs <;> rfl

namespace Regex

/-- What an event adds to the stream behind the text up to `previous`. Group `n + 1` of the engine
has the number `n`. -/
def eventFragments (t : Text) (previous : ℕ) (e : Match ByteSpan) : List (Fragment CharRange) :=
  gap previous (CharRange.ofByteSpan t e.whole).start ++
    .matched (.ofByteSpan t e.whole) ::
      e.groups.zipIdx.filterMap fun (span?, n) => span?.map fun span => .group (.ofByteSpan t span) n

/-- The group with the number `n` is group `n + 1` of the engine. -/
lemma mem_eventFragments_iff {t : Text} {previous : ℕ} {e : Match ByteSpan} {range : CharRange}
    {n : ℕ} :
    .group range n ∈ eventFragments t previous e ↔
      ∃ span, e.group? (n + 1) = some span ∧ range = .ofByteSpan t span := by
  have hgap : .group range n ∉ gap previous (CharRange.ofByteSpan t e.whole).start := fun h =>
    nomatch kind_of_mem_gap _ h
  simp only [eventFragments, List.mem_append, hgap, false_or, List.mem_cons, reduceCtorEq,
    List.mem_filterMap, Prod.exists, List.mem_zipIdx_iff_getElem?, Match.group?]
  constructor
  · rintro ⟨span?, i, hi, hfragment⟩
    obtain ⟨span, rfl, heq⟩ := Option.map_eq_some_iff.mp hfragment
    obtain ⟨rfl, rfl⟩ := Fragment.group.inj heq
    exact ⟨span, by rw [hi, Option.join_some], rfl⟩
  · rintro ⟨span, hspan, rfl⟩
    exact ⟨some span, n, Option.join_eq_some_iff.mp hspan, rfl⟩

/-- The fragments of a target, event by event, and the text behind the last one. -/
def description (r : Regex) (t : Text) : List (Fragment CharRange) :=
  match r.program.events t with
  | [] => []
  | es =>
    let stops := es.map fun e => (CharRange.ofByteSpan t e.whole).stop
    (List.zipWith (eventFragments t) (0 :: stops) es).flatten ++ gap (stops.getLastD 0) t.length

lemma layout_eq_eventFragments (t : Text) (previous : ℕ) (es : List (Match ByteSpan)) :
    let stops := es.map fun e => (CharRange.ofByteSpan t e.whole).stop
    layout t.length previous (es.map (·.map (CharRange.ofByteSpan t))) =
      (List.zipWith (eventFragments t) (previous :: stops) es).flatten ++
        gap (stops.getLastD previous) t.length := by
  induction es generalizing previous with
  | nil => rfl
  | cons e es ih =>
    have hgroups : groupsFrom 0 (e.groups.map (Option.map (CharRange.ofByteSpan t))) =
        e.groups.zipIdx.filterMap fun (span?, n) =>
          span?.map fun span => .group (.ofByteSpan t span) n := by
      rw [groupsFrom_eq_filterMap, List.zipIdx_map, List.filterMap_map]
      refine List.filterMap_congr fun ⟨span?, n⟩ _ => ?_
      cases span? <;> rfl
    have hrest := ih (CharRange.ofByteSpan t e.whole).stop
    simp only [List.map_cons, layout, Match.map, List.zipWith_cons_cons, List.flatten_cons,
      eventFragments, hgroups, List.getLastD_cons] at hrest ⊢
    rw [hrest]
    simp

lemma shown_eq_description (r : Regex) (t : Text) : r.shown t = r.description t := by
  unfold shown description occurrences
  cases r.program.events t with
  | nil => rfl
  | cons e es => exact layout_eq_eventFragments t 0 (e :: es)

lemma group?_map {σ τ : Type} (f : σ → τ) (m : Match σ) (n : ℕ) :
    (m.map f).group? n = (m.group? n).map f := by
  cases n with
  | zero => rfl
  | succ n =>
    simp only [Match.group?, Match.map, List.getElem?_map]
    cases m.groups[n]? <;> rfl

lemma numbered_of_compile? {grammar : Text} {flags : EngineFlags} {r : Regex}
    (h : compile? grammar flags = some r) : r.program.Numbered := by
  unfold compile? compile at h
  split_ifs at h
  · contradiction
  · cases hprogram : Program.ofGrammar? (flags.directive ++ grammar) with
    | none => simp [hprogram, Except.toOption] at h
    | some program =>
      simp only [hprogram, Except.toOption, Option.some.injEq] at h
      obtain rfl := h
      exact Program.numbered_of_ofGrammar? hprogram

/-- The spans of an event lie between characters and run forward. -/
lemma exists_toByteSpan {r : Regex} (hr : r.program.Numbered) {t : Text} {e : Match ByteSpan}
    (he : e ∈ r.program.events t) {n : ℕ} {span : ByteSpan} (hspan : e.group? n = some span) :
    ∃ s : Span, s.start ≤ s.stop ∧ span = Program.toByteSpan t s := by
  obtain ⟨m, hm, rfl⟩ := List.mem_map.mp he
  rw [group?_map, Option.map_eq_some_iff] at hspan
  obtain ⟨s, hs, rfl⟩ := hspan
  exact ⟨s, Program.span_le_of_mem_searchText hr hm n s hs, rfl⟩

lemma bytesBefore_charsBefore (t : Text) (n : ℕ) :
    t.bytesBefore (t.charsBefore (t.bytesBefore n)) = t.bytesBefore n := by
  rw [Text.charsBefore_bytesBefore, Text.bytesBefore_min]

lemma stop_ofByteSpan {s : Span} (h : s.start ≤ s.stop) (t : Text) :
    (CharRange.ofByteSpan t (Program.toByteSpan t s)).stop =
      t.charsBefore (Program.toByteSpan t s).stop := by
  rw [CharRange.ofByteSpan_toByteSpan]
  simp only [CharRange.ofBounds, Program.toByteSpan, Text.charsBefore_bytesBefore]
  omega

/-- A visitor is shown what the engine's events say. Every span runs forward between characters, and
it is shown as the characters before its ends. The first match is the one that is located. A visitor
that never stops is broken off just if the search behind the last match is. Where that search is not,
neither is the one for the first match. -/
theorem iterate_describes_events {grammar : Text} {flags : EngineFlags} {r : Regex}
    (h : compile? grammar flags = some r) (t : Text) :
    (∀ {σ : Type} (visit : Visitor σ) (s : σ),
      (r.iterate t .everything visit s).2 = (visit.run (r.description t) (s, true)).1) ∧
    (∀ e ∈ r.program.events t, ∀ n span, e.group? n = some span →
      let range := CharRange.ofByteSpan t span
      span.start ≤ span.stop ∧
        range.start = t.charsBefore span.start ∧ range.stop = t.charsBefore span.stop ∧
        t.bytesBefore range.start = span.start ∧ t.bytesBefore range.stop = span.stop) ∧
    r.locate t = (matchedRanges (r.description t)).head? ∧
    (∀ {σ : Type} (visit : Visitor σ) (s : σ), (∀ f s, (visit f s).2 = true) →
      r.iterateBreaks t .everything visit s = r.program.breaksAtLast t) ∧
    (r.program.breaksAtLast t = false → r.locateBreaks t = false) := by
  refine ⟨fun visit s => ?_, fun e he n span hspan => ?_, ?_,
    fun visit s hv => r.iterateBreaks_of_neverStops t rfl hv s, Program.breaksAtFirst_eq_false⟩
  · rw [r.iterate_eq_run, Selection.restrict_everything, shown_eq_description]
  · obtain ⟨s, hle, rfl⟩ := exists_toByteSpan (numbered_of_compile? h) he hspan
    refine ⟨Text.bytesBefore_mono t hle, rfl, stop_ofByteSpan hle t, ?_, ?_⟩
    · exact bytesBefore_charsBefore t s.start
    · rw [stop_ofByteSpan hle]
      exact bytesBefore_charsBefore t s.stop
  · rw [r.locate_eq, ← shown_eq_description]
    cases hocc : r.occurrences t with
    | nil => simp [shown, hocc]
    | cons m ms => simp [shown, hocc, layout, matchedRanges_gap_append]

/-- In `éébc` the letters around `b` are captured by looking behind and ahead. -/
theorem iterate_describes_events_around :
    ∃ r : Regex, Regex.compile? "(?<=(é))b(x)?(?=(c))".toList (.ofCase true) = some r ∧
      r.program.events "éébc".toList = [⟨⟨4, 5⟩, [some ⟨2, 4⟩, none, some ⟨5, 6⟩]⟩] ∧
      (r.iterate "éébc".toList .everything Visitor.collect []).2.reverse =
        [.unmatched (.ofBounds 0 2), .matched (.ofBounds 2 3), .group (.ofBounds 1 2) 0,
          .group (.ofBounds 3 4) 2, .unmatched (.ofBounds 3 4)] ∧
      (CharRange.ofByteSpan "éébc".toList ⟨2, 4⟩).stop = 2 ∧
      r.locate "éébc".toList = some (.ofBounds 2 3) ∧
      r.iterateBreaks "éébc".toList .everything Visitor.collect [] = false ∧
      r.locateBreaks "éébc".toList = false := by
  let r := (Regex.compile? "(?<=(é))b(x)?(?=(c))".toList (.ofCase true)).get (by decide +kernel)
  have hevents : r.program.events "éébc".toList =
      [⟨⟨4, 5⟩, [some ⟨2, 4⟩, none, some ⟨5, 6⟩]⟩] := by decide +kernel
  have hdescription : r.description "éébc".toList =
      [.unmatched (.ofBounds 0 2), .matched (.ofBounds 2 3), .group (.ofBounds 1 2) 0,
        .group (.ofBounds 3 4) 2, .unmatched (.ofBounds 3 4)] := by decide +kernel
  have hr : Regex.compile? "(?<=(é))b(x)?(?=(c))".toList (.ofCase true) = some r := by
    decide +kernel
  have hlast : r.program.breaksAtLast "éébc".toList = false := by decide +kernel
  obtain ⟨hiterate, hspans, hlocate, hbreaks, hfirst⟩ := iterate_describes_events hr "éébc".toList
  obtain ⟨-, -, hstop, -⟩ := hspans _ (hevents ▸ List.mem_singleton_self _) 1 ⟨2, 4⟩ rfl
  have hreturns : r.iterateBreaks "éébc".toList .everything Visitor.collect [] = false :=
    (hbreaks Visitor.collect [] fun _ _ => rfl).trans hlast
  refine ⟨r, hr, hevents, ?_, hstop, ?_, hreturns, hfirst hlast⟩
  · rw [hiterate, Visitor.run_collect, hdescription]
    rfl
  · rw [hlocate, hdescription]
    rfl

end Regex

end PatternAlgebra
