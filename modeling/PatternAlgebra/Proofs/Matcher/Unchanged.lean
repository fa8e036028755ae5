import PatternAlgebra.Matcher.Algebra
import PatternAlgebra.Proofs.Matcher.First
import PatternAlgebra.Proofs.Matcher.FirstGap
import PatternAlgebra.Proofs.Matcher.Literal

/-! Targets without a match. Whether there is one is asked of `hasMatches`, but a replacement goes
by the streams: a disjunction hands the target on to each of its children, and an inversion replaces
what its stream shows. So a target without a match is left alone just if the inversions that are
reached through disjunctions show no match either. They may: an inversion locates its first match by
what its source locates, which need not be what its source shows. -/
namespace PatternAlgebra.Matcher

open Fragment CharRange

/-- The sources of the inversions that are reached through disjunctions alone. -/
inductive Inverts : Matcher → Matcher → Prop
  | root (c : Matcher) : Inverts (inversion c) c
  | part {ms : List Matcher} {d c : Matcher} (hd : d ∈ ms) (h : Inverts d c) :
      Inverts (disjunction ms) c

variable {m c : Matcher} {ms : List Matcher} {t s : Text}

lemma inverts_disjunction : (disjunction ms).Inverts c ↔ ∃ d ∈ ms, d.Inverts c := by
  refine ⟨fun h => ?_, fun ⟨d, hd, hc⟩ => .part hd hc⟩
  cases h with
  | part hd hc => exact ⟨_, hd, hc⟩

lemma forall_inverts_disjunction {P : Matcher → Prop} :
    (∀ c, (disjunction ms).Inverts c → P c) ↔ ∀ d ∈ ms, ∀ c, d.Inverts c → P c := by
  constructor
  · intro hall d hd c hc
    exact hall c (.part hd hc)
  · intro hall c hc
    obtain ⟨d, hd, hdc⟩ := inverts_disjunction.mp hc
    exact hall d hd c hdc

lemma forall_inverts_inversion {P : Matcher → Prop} :
    (∀ d, (inversion c).Inverts d → P d) ↔ P c := by
  constructor
  · intro hall
    exact hall c (.root c)
  · intro hc d hd
    cases hd
    exact hc

lemma Orderly.child (h : Orderly t m) (hm : Combines m ms) : ∀ c ∈ ms, Orderly t c := by
  cases h with
  | conjunction h => cases hm; exact h
  | disjunction h => cases hm; exact h
  | _ => cases hm

lemma Orderly.source (h : Orderly t (.inversion c)) : Orderly t c := by
  cases h with
  | inversion h => exact h

lemma Reliable.orderly (h : m.Reliable) (t : Text) : Orderly t m := by
  induction h with
  | regex _ _ horder => exact .regex (horder t)
  | nothing => exact .nothing
  | whole => exact .whole
  | conjunction _ ih => exact .conjunction ih
  | disjunction _ ih => exact .disjunction ih
  | inversion _ ih => exact .inversion ih

/-! ### Rewriting a stream -/

lemma spliced_of_unmatched {fs : List (Fragment CharRange)} (h : ∀ f ∈ fs, f.kind = .unmatched)
    (htile : Tiles 0 t.length (fs.map content)) (s : Text) : spliced t s fs = t := by
  have hslices : spliced t s fs = (fs.map content).flatMap (·.slice t) := by
    clear htile
    induction fs with
    | nil => rfl
    | cons f fs ih =>
      obtain ⟨hf, hfs⟩ := List.forall_mem_cons.mp h
      cases f with
      | unmatched r => simp [ih hfs, content]
      | _ => cases hf
  rw [hslices, htile.flatMap_slice, List.drop_zero, Nat.sub_zero, List.take_length]

lemma length_le_spliced {fs : List (Fragment CharRange)} {r : CharRange} (h : .matched r ∈ fs)
    (t s : Text) : s.length ≤ (spliced t s fs).length := by
  obtain ⟨before, after, rfl⟩ := List.append_of_mem h
  rw [spliced_append, spliced_matched, List.length_append, List.length_append]
  omega

lemma matchRanges_eq_nil_iff (h : Orderly t m) :
    m.matchRanges t = [] ↔ ∀ f ∈ m.ranges t .shallow, f.kind = .unmatched := by
  rw [matchRanges_eq_map h.not_scripted, ← filter_matched_eq_map, List.filter_eq_nil_iff]
  refine forall₂_congr fun f hf => ?_
  have hkind := kind_of_mem_ranges_shallow h.not_scripted hf
  cases f <;> simp_all [kind]

/-- Rewriting a target in whose stream there is no match leaves it as it is, and otherwise puts in
the text at least once. -/
lemma rewritten_cases (h : Orderly t m) (hm : ∀ r, m = .regex r → r.program.events t ≠ []) (s : Text) :
    (m.matchRanges t = [] → m.rewritten t s = t) ∧
      (m.matchRanges t ≠ [] → s.length ≤ (m.rewritten t s).length) := by
  simp only [ne_eq, matchRanges_eq_nil_iff h, rewritten]
  refine ⟨fun hall => spliced_of_unmatched hall (tiles_regions h hm) s, fun hnot => ?_⟩
  push Not at hnot
  obtain ⟨f, hf, hkind⟩ := hnot
  have hgroup := kind_of_mem_ranges_shallow h.not_scripted hf
  cases f with
  | matched r => exact length_le_spliced hf t s
  | unmatched r => exact absurd rfl hkind
  | group r id => exact absurd rfl hgroup

lemma min_le_length_rewritten (h : Orderly t m)
    (hm : ∀ r, m = .regex r → r.program.events t ≠ []) (s : Text) :
    min t.length s.length ≤ (m.rewritten t s).length := by
  obtain ⟨hnone, hsome⟩ := rewritten_cases h hm s
  by_cases hnil : m.matchRanges t = []
  · rw [hnone hnil]
    exact min_le_left _ _
  · exact (min_le_right _ _).trans (hsome hnil)

/-! ### Inserting a text -/

lemma min_le_length_insertEach
    (h : ∀ c ∈ ms, ∀ t, min t.length s.length ≤ (c.insertLiteral t s).length) (t : Text) :
    min t.length s.length ≤ (insertEach ms t s).length := by
  induction ms generalizing t with
  | nil => rw [insertEach]; exact min_le_left _ _
  | cons c ms ih =>
    obtain ⟨hc, hms⟩ := List.forall_mem_cons.mp h
    have hfirst := hc t
    have hrest := ih hms (c.insertLiteral t s)
    rw [insertEach]
    omega

lemma events_of_no_match {r : Regex} (h : (regex r).hasMatches t = false) :
    r.program.events t = [] := by
  rw [hasMatches_eq_isSome_locate, locate, r.locate_eq] at h
  simpa [Regex.occurrences] using h

lemma matchRanges_nothing (t : Text) : nothing.matchRanges t = [] := ranges_nothing t .matchesOnly

lemma insertLiteral_regex_of_no_event {r : Regex} (h : r.program.events t = []) (s : Text) :
    (regex r).insertLiteral t s = t := by
  have hnone : (regex r).ranges t .shallow = [] :=
    List.map_eq_nil_iff.mp (regions_regex_of_no_match h)
  rw [insertLiteral, if_pos hnone]

/-- No replacement gets shorter than both the target and the text that it inserts. -/
lemma min_le_length_insertLiteral (h : ∀ t, Orderly t m) (t s : Text) :
    min t.length s.length ≤ (m.insertLiteral t s).length := by
  induction m generalizing t with
  | regex r =>
    by_cases hnone : r.program.events t = []
    · rw [insertLiteral_regex_of_no_event hnone]
      exact min_le_left _ _
    · have hm : ∀ q, regex r = .regex q → q.program.events t ≠ [] := by rintro _ ⟨⟩; exact hnone
      rw [insertLiteral]
      split_ifs
      · exact min_le_left _ _
      · exact min_le_length_rewritten (h t) hm s
  | nothing => rw [insertLiteral]; exact min_le_length_rewritten (h t) (by simp) s
  | whole => rw [insertLiteral]; exact min_le_length_rewritten (h t) (by simp) s
  | inversion c _ => rw [insertLiteral]; exact min_le_length_rewritten (h t) (by simp) s
  | conjunction ms ih =>
    rw [insertLiteral]
    split_ifs
    · exact min_le_length_insertEach (fun c hc => ih c hc fun u => (h u).child (.conjunction _) c hc) t
    · exact min_le_left _ _
  | disjunction ms ih =>
    rw [insertLiteral]
    exact min_le_length_insertEach (fun c hc => ih c hc fun u => (h u).child (.disjunction _) c hc) t
  | scripted script => exact absurd rfl ((h t).not_scripted script)

lemma insertEach_cases {P : Matcher → Prop}
    (hmin : ∀ c ∈ ms, ∀ t, min t.length s.length ≤ (c.insertLiteral t s).length)
    (h : ∀ c ∈ ms, (P c → c.insertLiteral t s = t) ∧ (¬P c → s.length ≤ (c.insertLiteral t s).length)) :
    ((∀ c ∈ ms, P c) → insertEach ms t s = t) ∧
      (¬(∀ c ∈ ms, P c) → s.length ≤ (insertEach ms t s).length) := by
  induction ms with
  | nil => exact ⟨fun _ => by rw [insertEach], fun hnot => absurd (by simp) hnot⟩
  | cons c ms ih =>
    obtain ⟨hcmin, hmin⟩ := List.forall_mem_cons.mp hmin
    obtain ⟨⟨hsame, hlong⟩, hms⟩ := List.forall_mem_cons.mp h
    rw [insertEach, List.forall_mem_cons]
    by_cases hc : P c
    · simpa [hc, hsame hc] using ih hmin hms
    · -- what one child has put in, those behind it do not take away
      have hrest := min_le_length_insertEach hmin (c.insertLiteral t s)
      have hfirst := hlong hc
      exact ⟨fun hall => absurd hall.1 hc, fun _ => by omega⟩

/-- Where there is no match, a text is inserted just if an inversion shows one all the same. -/
lemma insertLiteral_cases (h : ∀ t, Orderly t m) (hm : m.hasMatches t = false) (s : Text) :
    ((∀ c, m.Inverts c → (inversion c).matchRanges t = []) → m.insertLiteral t s = t) ∧
      (¬(∀ c, m.Inverts c → (inversion c).matchRanges t = []) →
        s.length ≤ (m.insertLiteral t s).length) := by
  induction m with
  | regex r =>
    have hsame := insertLiteral_regex_of_no_event (events_of_no_match hm) s
    refine ⟨fun _ => hsame, fun hnot => absurd ?_ hnot⟩
    rintro _ ⟨⟩
  | nothing =>
    have hsame := (rewritten_cases (h t) (by simp) s).1
    refine ⟨fun _ => ?_, fun hnot => absurd ?_ hnot⟩
    · rw [insertLiteral]
      exact hsame (matchRanges_nothing t)
    · rintro _ ⟨⟩
  | whole => cases hm
  | conjunction ms _ =>
    refine ⟨fun _ => ?_, fun hnot => absurd ?_ hnot⟩
    · have hnot : ms ≠ [] → ¬∀ m ∈ ms, m.hasMatches t = true := fun hne hall => by
        simp [(hasMatches_conjunction ms t).mpr ⟨hne, hall⟩] at hm
      rw [insertLiteral]
      cases ms with
      | nil => simp [insertEach]
      | cons c ms => rw [if_neg (hnot (by simp))]
    · rintro _ ⟨⟩
  | disjunction ms ih =>
    have hnone : ∀ c ∈ ms, c.hasMatches t = false := by
      rw [hasMatches, anyHasMatches_eq_any, List.any_eq_false] at hm
      simpa using hm
    have hchild {c : Matcher} (hc : c ∈ ms) (u : Text) : Orderly u c :=
      (h u).child (.disjunction _) c hc
    rw [insertLiteral, forall_inverts_disjunction]
    exact insertEach_cases (fun c hc u => min_le_length_insertLiteral (hchild hc) u s)
      fun c hc => ih c hc (hchild hc) (hnone c hc)
  | inversion c _ =>
    rw [insertLiteral, forall_inverts_inversion]
    exact rewritten_cases (h t) (by simp) s
  | scripted script => exact absurd rfl ((h t).not_scripted script)

/-! ### What a matcher without a match shows and replaces -/

lemma matchRanges_of_no_match (h : Orderly t m) (hm : m.hasMatches t = false)
    (hinv : ∀ c, m.Inverts c → (inversion c).matchRanges t = []) : m.matchRanges t = [] := by
  have hcombination {m : Matcher} {ms : List Matcher} (hc : Combines m ms)
      (hm : m.hasMatches t = false) : m.matchRanges t = [] := by
    have hshown : m.matchRanges t = (if m.hasMatches t then merged ms t else []).map .matched :=
      ranges_combination_eq_map hc t none
    rw [hshown, hm]
    rfl
  cases m with
  | regex r =>
    have hnone : (regex r).regions t = [] := regions_regex_of_no_match (events_of_no_match hm)
    rw [matchRanges_eq_nil_iff h, List.map_eq_nil_iff.mp hnone]
    simp
  | nothing => exact matchRanges_nothing t
  | whole => cases hm
  | conjunction ms => exact hcombination (.conjunction ms) hm
  | disjunction ms => exact hcombination (.disjunction ms) hm
  | inversion c => exact hinv c (.root c)
  | scripted script => exact absurd rfl (h.not_scripted script)

/-- Without a match, a template is as good as the text that it stands for. -/
lemma replaceMatches_of_no_match (hm : m.hasMatches t = false) (s : Text) :
    m.replaceMatches t s = m.insertLiteral t s := by
  have hliteral := replaceMatches_eq_insertLiteral m t s
  cases m with
  | regex r =>
    have hnone := events_of_no_match hm
    have hsame : r.replaceFrom t (Template.encode (Template.parse r.captureCount s)) 0 [] = t :=
      r.replaceFrom_nil t _ 0
    rw [insertLiteral_regex_of_no_event hnone, replaceMatches, Regex.replaceMatches, hnone, hsame]
  | _ => exact hliteral

/-- An inversion shows no match if its source shows the whole target as its first one. -/
lemma matchRanges_inversion_of_whole (os : List (Engine.Match CharRange)) {first : CharRange}
    (hc : c.ranges t .shallow = Selection.shallow.restrict 0 (layout t.length 0 os))
    (hascends : Ascends t.length 0 (os.map (·.whole))) (hfirst : (os.map (·.whole)).head? = some first)
    (hstart : first.start = 0) (hstop : first.stop = t.length) :
    (inversion c).matchRanges t = [] := by
  have hne : c.ranges t .shallow ≠ [] := by
    rw [hc]
    cases os with
    | nil => cases hfirst
    | cons o os => simp [Selection.restrict_layout_cons (Selection.allows_shallow _)]
  have hshown : (inversion c).matchRanges t = (inversion c).ranges t .matchesOnly := rfl
  obtain ⟨rest, hrest⟩ := List.head?_eq_some_iff.mp hfirst
  rw [hrest] at hascends
  rw [hshown, ranges_inversion, inverted_of_ne_nil hne, hc, restrict_swapped_layout, hrest,
    gaps_of_whole hascends hstart hstop, List.map_nil]

/-- An inversion that has no match has a source that locates the whole target. -/
lemma locate_source_of_no_match (h : (inversion c).hasMatches t = false) :
    ∃ first, c.locate t = some first ∧ first.start = 0 ∧ first.stop = t.length := by
  rw [hasMatches_eq_isSome_locate, locate] at h
  cases hfirst : c.locate t with
  | none => simp [hfirst] at h
  | some first =>
    refine ⟨first, rfl, ?_⟩
    simp only [hfirst] at h
    split_ifs at h with hlead hend
    · contradiction
    · omega
    · split at h <;> contradiction

lemma hasMatches_of_inverts (h : m.Inverts c) (hm : m.hasMatches t = false) :
    (inversion c).hasMatches t = false := by
  induction h with
  | root c => exact hm
  | @part ms d c hd _ ih =>
    rw [hasMatches, anyHasMatches_eq_any, List.any_eq_false] at hm
    exact ih (by simpa using hm d hd)

lemma Orderly.of_inverts (hc : m.Inverts c) (h : Orderly t m) : Orderly t c := by
  induction hc with
  | root c => exact h.source
  | part hd _ ih => exact ih (h.child (.disjunction _) _ hd)

lemma matchRanges_inversion_regex {r : Regex} (h : r.InOrder t)
    (hm : (inversion (regex r)).hasMatches t = false) : (inversion (regex r)).matchRanges t = [] := by
  obtain ⟨first, hfirst, hstart, hstop⟩ := locate_source_of_no_match hm
  rw [locate, r.locate_eq, ← List.head?_map] at hfirst
  have hne : r.occurrences t ≠ [] := by
    rintro hnone
    simp [hnone] at hfirst
  refine matchRanges_inversion_of_whole _ ?_ h.ascends hfirst hstart hstop
  rw [ranges_regex, Regex.shown_of_ne_nil hne]

lemma matchRanges_inversion_combination (hc : Combines c ms) (h : Orderly t c)
    (hm : (inversion c).hasMatches t = false)
    (hlocate : c.locate t = (matchedRanges (c.ranges t .matchesOnly)).head?) :
    (inversion c).matchRanges t = [] := by
  obtain ⟨first, hfirst, hstart, hstop⟩ := locate_source_of_no_match hm
  have hhas : c.hasMatches t = true := by simp [hasMatches_eq_isSome_locate, hfirst]
  have hshown : matchedRanges (c.ranges t .matchesOnly) = merged ms t := by
    rw [shown_combination hc, if_pos hhas]
  have hnot : ∀ r, c = .regex r → r.program.events t ≠ [] := by
    rintro r rfl
    cases hc
  have hascends : Ascends t.length 0 (merged ms t) := by
    refine ascends_of_isChain (Nat.zero_le _) (fun _ _ => Nat.zero_le _)
      ((pairwise_merged ms t).imp And.left).isChain fun r hr => ?_
    exact (tiles_regions h hnot).stop_le (mem_regions_of_match h (hshown ▸ hr))
  refine matchRanges_inversion_of_whole (Union.bare (merged ms t)) ?_ ?_ ?_ hstart hstop
  · rw [ranges_combination hc, if_pos hhas]
  · rwa [Union.map_whole_bare]
  · rw [Union.map_whole_bare, ← hshown, ← hlocate, hfirst]

/-- Where a matcher has no match, it shows none and its replacements leave the target as it is just
if the inversions that are reached through disjunctions show no match. The inversion of a regular
expression shows none, nor does that of a combination which locates what it shows first. -/
theorem unchanged_without_match_iff (h : ∀ u, Orderly u m) (hm : m.hasMatches t = false) :
    ((m.matchRanges t = [] ∧ ∀ s, m.replaceMatches t s = t) ↔
        ∀ c, m.Inverts c → (inversion c).matchRanges t = []) ∧
      (∀ r, m.Inverts (regex r) → (inversion (regex r)).matchRanges t = []) ∧
      (∀ c cs, m.Inverts c → Combines c cs →
        c.locate t = (matchedRanges (c.ranges t .matchesOnly)).head? →
          (inversion c).matchRanges t = []) ∧
      (m.Reliable → ∀ s, m.breaksOff t (.replace s) = false) := by
  refine ⟨⟨fun ⟨_, hsame⟩ => ?_, fun hinv => ⟨?_, fun s => ?_⟩⟩, fun r hr => ?_,
    fun c cs hc hcs hlocate => ?_, fun hreliable s => ?_⟩
  · -- a text that is longer than the target shows whether one is inserted
    by_contra hnot
    have hlong := (insertLiteral_cases h hm (t ++ [' '])).2 hnot
    rw [← replaceMatches_of_no_match hm, hsame, List.length_append, List.length_singleton] at hlong
    omega
  · exact matchRanges_of_no_match (h t) hm hinv
  · rw [replaceMatches_of_no_match hm]
    exact (insertLiteral_cases h hm s).1 hinv
  · cases Orderly.of_inverts hr (h t) with
    | regex horder => exact matchRanges_inversion_regex horder (hasMatches_of_inverts hr hm)
  · exact matchRanges_inversion_combination hcs (.of_inverts hc (h t)) (hasMatches_of_inverts hc hm)
      hlocate
  · rw [breaksOff, hreliable.replaceBreaks, Bool.and_false]

/-- Neither `a` nor a gap of `b` is in `b`, so nothing is replaced there. -/
theorem unchanged_without_match_iff_letters :
    let m := disjunction [regex (.letter 'a'), inversion (regex (.letter 'b'))]
    (∀ u, Orderly u m) ∧ m.hasMatches ['b'] = false ∧ m.Reliable ∧
      (∀ s, m.replaceMatches ['b'] s = ['b']) ∧
      (∀ s, m.breaksOff ['b'] (.replace s) = false) := by
  intro m
  have hletter (c : Char) : (regex (.letter c)).Reliable := .of_not_canBreak rfl
  have hreliable : m.Reliable := by
    refine .disjunction fun c hc => ?_
    rcases List.mem_cons.mp hc with rfl | hc
    · exact hletter 'a'
    · rw [List.mem_singleton.mp hc]
      exact (hletter 'b').inversion
  have hm : m.hasMatches ['b'] = false := by decide +kernel
  obtain ⟨hiff, hregex, -, hbreaks⟩ := unchanged_without_match_iff hreliable.orderly hm
  have hinv : ∀ c, m.Inverts c → (inversion c).matchRanges ['b'] = [] := by
    intro c hc
    obtain ⟨d, hd, hdc⟩ := inverts_disjunction.mp hc
    rcases List.mem_cons.mp hd with rfl | hd
    · cases hdc
    · obtain rfl := List.mem_singleton.mp hd
      cases hdc
      exact hregex _ hc
  exact ⟨hreliable.orderly, hm, hreliable, (hiff.mpr hinv).2, hbreaks hreliable⟩

/-- In `abc` the union of `b` and `abc` locates the whole text but shows `b`. Its inversion has no
match, and yet it shows the letters around `b` and replaces them. -/
theorem unchanged_without_match_overlapping :
    ∃ b abc : Regex, Regex.compile? "b".toList (.ofCase true) = some b ∧
      Regex.compile? "abc".toList (.ofCase true) = some abc ∧
      ((regex b).or (regex abc)).inverse.Reliable ∧
      ((regex b).or (regex abc)).inverse.hasMatches "abc".toList = false ∧
      ((regex b).or (regex abc)).inverse.matchRanges "abc".toList =
        [.matched (.ofBounds 0 1), .matched (.ofBounds 2 3)] ∧
      ((regex b).or (regex abc)).inverse.replaceMatches "abc".toList "x".toList = "xbx".toList := by
  refine ⟨(Regex.compile? "b".toList (.ofCase true)).get (by decide +kernel),
    (Regex.compile? "abc".toList (.ofCase true)).get (by decide +kernel), ?_⟩
  refine ⟨?_, ?_, ?_, ?_, ?_, ?_⟩
  · decide +kernel
  · decide +kernel
  · refine .inversion (.disjunction ?_)
    simp only [disjuncts, List.flatMap_cons, List.flatMap_nil, List.mem_append, List.mem_singleton,
      List.not_mem_nil, or_false, forall_eq_or_imp, forall_eq]
    exact ⟨.of_not_canBreak (by decide +kernel), .of_not_canBreak (by decide +kernel)⟩
  all_goals decide +kernel

end PatternAlgebra.Matcher
