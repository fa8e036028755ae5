import PatternAlgebra.Proofs.Matcher.Tiling

/-! The first match of an inversion. Its stream of matches is the list of gaps that the source
leaves, while a search for the first of them asks the source only twice, the second time about the
text behind its first match. So the two agree only where that text shows the same next match and
the second match does not touch the first. -/
namespace PatternAlgebra

open Fragment CharRange

/-- The gaps before, between and behind ascending ranges. -/
def gaps (stop : ℕ) : (previous : ℕ) → List CharRange → List CharRange
  | previous, [] => (gap previous stop).map content
  | previous, r :: rs => (gap previous r.start).map content ++ gaps stop r.stop rs

/-- Where the first of some ranges starts, or `stop` if there is none. -/
def startOr (stop : ℕ) (range : Option CharRange) : ℕ := range.elim stop CharRange.start

lemma content_gap (previous start : ℕ) :
    (gap previous start).map content =
      if previous < start then [.ofBounds previous start] else [] := by
  unfold gap
  split_ifs <;> rfl

lemma start_of_mem_gaps {stop previous : ℕ} {rs : List CharRange} (h : Ascends stop previous rs)
    {g : CharRange} (hg : g ∈ gaps stop previous rs) : previous ≤ g.start ∧ g.start < stop := by
  induction rs generalizing previous with
  | nil =>
    rw [gaps, content_gap] at hg
    split_ifs at hg with hlt
    · rw [List.mem_singleton.mp hg]
      exact ⟨le_rfl, hlt⟩
    · contradiction
  | cons r rs ih =>
    obtain ⟨hstart, hrest⟩ := h
    have hle := r.start_le_stop
    have hlast := hrest.le
    rw [gaps, content_gap] at hg
    rcases List.mem_append.mp hg with hg | hg
    · split_ifs at hg with hlt
      · rw [List.mem_singleton.mp hg]
        exact ⟨le_rfl, by simp only [ofBounds]; omega⟩
      · contradiction
    · obtain ⟨hbehind, hfront⟩ := ih hrest hg
      exact ⟨by omega, hfront⟩

lemma gaps_at_end {stop : ℕ} {rs : List CharRange} (h : Ascends stop stop rs) :
    gaps stop stop rs = [] := by
  rw [List.eq_nil_iff_forall_not_mem]
  intro g hg
  obtain ⟨hbehind, hfront⟩ := start_of_mem_gaps h hg
  omega

lemma gaps_cons_of_touch (stop : ℕ) {r : CharRange} (rs : List CharRange) :
    gaps stop r.start (r :: rs) = gaps stop r.stop rs := by
  simp [gaps, content_gap]

lemma gaps_of_whole {stop : ℕ} {f : CharRange} {rs : List CharRange} (h : Ascends stop 0 (f :: rs))
    (hlead : f.start = 0) (hend : f.stop = stop) : gaps stop 0 (f :: rs) = [] := by
  subst hend
  rw [← hlead, gaps_cons_of_touch, gaps_at_end h.2]

lemma head?_gaps {stop previous : ℕ} {rs : List CharRange} (h : previous < startOr stop rs.head?) :
    (gaps stop previous rs).head? = some (.ofBounds previous (startOr stop rs.head?)) := by
  cases rs with
  | nil =>
    have hlt : previous < stop := h
    rw [gaps, content_gap, if_pos hlt]
    rfl
  | cons r rs =>
    have hlt : previous < r.start := h
    rw [gaps, content_gap, if_pos hlt]
    rfl

/-- Where the next range touches what comes before it and is not empty, no gap starts there. -/
lemma head?_gaps_of_touch {stop : ℕ} {r : CharRange} {rs : List CharRange}
    (h : Ascends stop r.start (r :: rs)) (hfull : r.start < r.stop) (last : ℕ) :
    (gaps stop r.start (r :: rs)).head? ≠ some (.ofBounds r.start last) := by
  intro hhead
  rw [gaps_cons_of_touch] at hhead
  have hbehind := (start_of_mem_gaps h.2 (List.mem_of_mem_head? hhead)).1
  exact absurd hbehind (by simpa [ofBounds] using hfull)

lemma gaps_eq_nil_iff {stop previous : ℕ} {rs : List CharRange} (h : Ascends stop previous rs) :
    gaps stop previous rs = [] ↔ Tiles previous stop rs := by
  induction rs generalizing previous with
  | nil =>
    have hle : previous ≤ stop := h
    rw [gaps, content_gap]
    constructor
    · intro hnil
      split_ifs at hnil with hlt
      obtain rfl : previous = stop := by omega
      exact .nil previous
    · rintro ⟨⟩
      simp
  | cons r rs ih =>
    obtain ⟨hstart, hrest⟩ := h
    rw [gaps, content_gap, List.append_eq_nil_iff, ih hrest]
    constructor
    · rintro ⟨hnil, htile⟩
      split_ifs at hnil with hlt
      obtain rfl : previous = r.start := by omega
      exact htile.cons r
    · rintro (_ | ⟨_, htile⟩)
      exact ⟨by simp, htile⟩

namespace Matcher

lemma swapped_append (fs gs : List (Fragment CharRange)) :
    swapped (fs ++ gs) = swapped fs ++ swapped gs := List.filterMap_append

lemma restrict_swapped_layout (count stop previous : ℕ) (ms : List (Engine.Match CharRange)) :
    Selection.matchesOnly.restrict 0
        (swapped (Selection.shallow.restrict count (layout stop previous ms))) =
      (gaps stop previous (ms.map (·.whole))).map .matched := by
  induction ms generalizing count previous with
  | nil =>
    rw [Selection.restrict_layout_nil (Selection.allows_shallow _), List.map_nil, gaps, content_gap,
      Selection.restrict_matchesOnly]
    by_cases hlt : previous < stop <;> simp [hlt, kind]
  | cons m ms ih =>
    rw [Selection.restrict_layout_cons (Selection.allows_shallow _), List.map_cons, gaps,
      content_gap, List.map_append, ← ih (count + 1) m.whole.stop]
    simp only [Selection.restrict_matchesOnly, swapped_append, List.filter_append]
    by_cases hlt : previous < m.whole.start <;> simp [hlt, kind]

variable {r : Regex} {t : Text}

/-- The inversion of a regular expression matches the gaps, or everything if there is no match. -/
lemma ranges_inversion_regex (r : Regex) (t : Text) :
    (inversion (regex r)).ranges t .matchesOnly =
      match r.occurrences t with
      | [] => [.matched (.whole t)]
      | ms => (gaps t.length 0 (ms.map (·.whole))).map .matched := by
  rw [ranges_inversion, ranges_regex, Regex.shown]
  cases hms : r.occurrences t with
  | nil => rfl
  | cons m ms =>
    have hne : Selection.shallow.restrict 0 (layout t.length 0 (m :: ms)) ≠ [] := by
      simp [Selection.restrict_layout_cons (Selection.allows_shallow _)]
    rw [inverted_of_ne_nil hne, restrict_swapped_layout]

/-- Whether a search for the first gap finds it: there is one in front of the first match or none
behind it, or a second match does not touch the first and the text behind the first shows it too. -/
def FindsFirstGap (r : Regex) (t : Text) : Prop :=
  match r.occurrences t with
  | [] => True
  | first :: later =>
    let next := startOr t.length (later.head?.map (·.whole))
    let rest := startOr (t.length - first.whole.stop) (r.locate (t.drop first.whole.stop))
    0 < first.whole.start ∨ first.whole.stop = t.length ∨
      first.whole.stop < next ∧ next = first.whole.stop + rest

lemma locate_inversion_regex_of_no_match (h : r.occurrences t = []) :
    (inversion (regex r)).locate t = some (.whole t) := by
  have hnone : (regex r).locate t = none := by
    rw [locate, r.locate_eq, h]
    rfl
  rw [locate, hnone]

lemma locate_inversion_regex {first : Engine.Match CharRange} {later : List (Engine.Match CharRange)}
    (h : r.occurrences t = first :: later) :
    (inversion (regex r)).locate t =
      if 0 < first.whole.start then some (.ofBounds 0 first.whole.start)
      else if first.whole.stop = t.length then none
      else some (.ofBounds first.whole.stop (first.whole.stop +
        startOr (t.length - first.whole.stop) (r.locate (t.drop first.whole.stop)))) := by
  have hfirst : (regex r).locate t = some first.whole := by
    rw [locate, r.locate_eq, h]
    rfl
  have hstop : first.whole.stop ≤ t.length :=
    Regex.stop_le_of_mem_occurrences (h ▸ List.mem_cons_self)
  have hslice : (CharRange.ofBounds first.whole.stop t.length).slice t = t.drop first.whole.stop := by
    rw [slice_eq_take_drop]
    refine List.take_of_length_le ?_
    simp only [ofBounds, List.length_drop]
    omega
  rw [locate, hfirst]
  simp only [hslice, locate]
  split_ifs
  · rfl
  · rfl
  · cases r.locate (t.drop first.whole.stop) with
    | none => simp [startOr, Nat.add_sub_cancel' hstop]
    | some second => rfl

/-- The first gap around the first of some ranges, against two guesses that know only that range
and the end of the gap behind it. -/
lemma guess_eq_head?_gaps_iff {stop : ℕ} {f : CharRange} {rs : List CharRange}
    (h : Ascends stop 0 (f :: rs))
    (htouch : ∀ r ∈ rs.head?, f.stop < stop → r.start = f.stop → f.stop < r.stop) (rest : ℕ) :
    (if 0 < f.start then some (.ofBounds 0 f.start) else if f.stop = stop then none
        else some (.ofBounds f.stop (f.stop + rest))) = (gaps stop 0 (f :: rs)).head? ↔
      0 < f.start ∨ f.stop = stop ∨
        f.stop < startOr stop rs.head? ∧ startOr stop rs.head? = f.stop + rest := by
  by_cases hlead : 0 < f.start
  · have hhead : (gaps stop 0 (f :: rs)).head? = some (.ofBounds 0 f.start) := head?_gaps hlead
    simp [hlead, hhead]
  have hzero : f.start = 0 := by omega
  by_cases hend : f.stop = stop
  · simp [hlead, hend, gaps_of_whole h hzero hend]
  have hgaps : gaps stop 0 (f :: rs) = gaps stop f.stop rs := by rw [← gaps_cons_of_touch, hzero]
  have hf : f.stop < stop := lt_of_le_of_ne h.2.le hend
  rw [hgaps]
  by_cases hapart : f.stop < startOr stop rs.head?
  · rw [head?_gaps hapart]
    simp only [hlead, hend, hapart, if_false, false_or, true_and, ofBounds, Option.some.injEq,
      CharRange.mk.injEq]
    omega
  · simp only [hlead, hend, hapart, if_false, false_or, false_and, iff_false]
    -- the next match touches the first, so a gap that is shown begins behind it
    cases rs with
    | nil => exact absurd hf hapart
    | cons r rs =>
      have hstart : r.start = f.stop := le_antisymm (not_lt.mp hapart) h.2.1
      have hfull : f.stop < r.stop := htouch r rfl hf hstart
      rw [← hstart] at hfull ⊢
      exact (head?_gaps_of_touch ⟨le_rfl, h.2.2⟩ hfull _).symm

/-- An inversion locates the first match that it shows just when its second search finds the end of
the first gap. -/
lemma locate_inversion_eq_first_iff (h : r.InOrder t) :
    (inversion (regex r)).locate t =
        ((inversion (regex r)).ranges t .matchesOnly).head?.map content ↔ FindsFirstGap r t := by
  unfold FindsFirstGap
  rw [ranges_inversion_regex]
  cases hocc : r.occurrences t with
  | nil =>
    rw [locate_inversion_regex_of_no_match hocc]
    simp [content]
  | cons first later =>
    have hascends := h.ascends
    have htouch := r.isChain_not_touching t
    rw [hocc, List.map_cons] at hascends
    rw [hocc, List.map_cons, List.isChain_cons] at htouch
    have hhead (gs : List CharRange) :
        (gs.map Fragment.matched).head?.map content = gs.head? := by
      cases gs <;> rfl
    rw [locate_inversion_regex hocc, hhead, List.map_cons]
    simp only [← List.head?_map]
    exact guess_eq_head?_gaps_iff hascends htouch.1 _

/-- An inversion claims a match without showing one just when the matches of its source leave no
gap although the first of them does not end with the text. -/
lemma hasMatches_inversion_iff (h : r.InOrder t) :
    ((inversion (regex r)).hasMatches t = true ↔ (inversion (regex r)).matchRanges t ≠ []) ↔
      ¬((∃ first ∈ (r.occurrences t).head?, first.whole.stop < t.length) ∧
        Tiles 0 t.length ((r.occurrences t).map (·.whole))) := by
  have hhas : (inversion (regex r)).hasMatches t = ((inversion (regex r)).locate t).isSome := rfl
  have hshown : (inversion (regex r)).matchRanges t = (inversion (regex r)).ranges t .matchesOnly :=
    rfl
  rw [hhas, hshown, ranges_inversion_regex]
  cases hocc : r.occurrences t with
  | nil => simp [locate_inversion_regex_of_no_match hocc]
  | cons first later =>
    have hascends := h.ascends
    rw [hocc, List.map_cons] at hascends
    have hsome : ((inversion (regex r)).locate t).isSome ↔
        0 < first.whole.start ∨ first.whole.stop ≠ t.length := by
      rw [locate_inversion_regex hocc]
      split_ifs <;> simp_all
    have hgaps : gaps t.length 0 (first.whole :: later.map (·.whole)) = [] ↔
        Tiles 0 t.length (first.whole :: later.map (·.whole)) :=
      gaps_eq_nil_iff hascends
    have hlead : Tiles 0 t.length (first.whole :: later.map (·.whole)) → first.whole.start = 0 :=
      Tiles.start_eq
    have hwhole : first.whole.start = 0 → first.whole.stop = t.length →
        Tiles 0 t.length (first.whole :: later.map (·.whole)) :=
      fun hstart hend => hgaps.mp (gaps_of_whole hascends hstart hend)
    have hfirst := hascends.2.le
    simp only [List.map_cons, List.head?_cons, ne_eq, List.map_eq_nil_iff, hgaps, hsome,
      Option.mem_def, Option.some.injEq, exists_eq_left']
    by_cases htile : Tiles 0 t.length (first.whole :: later.map (·.whole))
    · have hstart := hlead htile
      simp only [htile, not_true_eq_false, iff_false, and_true]
      omega
    · have hopen : 0 < first.whole.start ∨ first.whole.stop ≠ t.length := by
        by_contra hno
        exact htile (hwhole (by omega) (by omega))
      simp [htile, hopen]

/-- The two ways to the first match of an inversion agree just when its second search finds the end
of the first gap. That there is a match at all they agree on unless the source's matches leave no
gap and the first of them ends before the text does. -/
theorem locate_inversion_iff (h : r.InOrder t) :
    ((inversion (regex r)).locate t =
        ((inversion (regex r)).ranges t .matchesOnly).head?.map content ↔ FindsFirstGap r t) ∧
      (((inversion (regex r)).hasMatches t = true ↔ (inversion (regex r)).matchRanges t ≠ []) ↔
        ¬((∃ first ∈ (r.occurrences t).head?, first.whole.stop < t.length) ∧
          Tiles 0 t.length ((r.occurrences t).map (·.whole)))) :=
  ⟨locate_inversion_eq_first_iff h, hasMatches_inversion_iff h⟩

/-- In `aba` the second search from `b` on shows the end of the gap. -/
theorem locate_inversion_iff_apart :
    (Regex.letter 'a').InOrder ['a', 'b', 'a'] ∧
      (inversion (regex (.letter 'a'))).locate ['a', 'b', 'a'] = some (.ofBounds 1 2) ∧
      FindsFirstGap (.letter 'a') ['a', 'b', 'a'] := by
  have h : (Regex.letter 'a').InOrder ['a', 'b', 'a'] := Regex.inOrder_of_not_canStepBack rfl _
  exact ⟨h, by decide +kernel, (locate_inversion_iff h).1.mp (by decide +kernel)⟩

/-- In `aab` an inversion locates an empty range between the two matches of `a`, not the gap behind
them, and in `aa` it claims a match although there is no gap. -/
theorem locate_inversion_touching :
    (Regex.letter 'a').InOrder ['a', 'a', 'b'] ∧
      (inversion (regex (.letter 'a'))).locate ['a', 'a', 'b'] = some (.ofBounds 1 1) ∧
      (inversion (regex (.letter 'a'))).ranges ['a', 'a', 'b'] .matchesOnly =
        [.matched (.ofBounds 2 3)] ∧
      (Regex.letter 'a').InOrder ['a', 'a'] ∧
      (inversion (regex (.letter 'a'))).hasMatches ['a', 'a'] = true ∧
      (inversion (regex (.letter 'a'))).matchRanges ['a', 'a'] = [] := by
  refine ⟨Regex.inOrder_of_not_canStepBack rfl _, ?_, ?_,
    Regex.inOrder_of_not_canStepBack rfl _, ?_, ?_⟩ <;> decide +kernel

end Matcher

end PatternAlgebra
