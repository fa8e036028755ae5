import PatternAlgebra.Proofs.Stream.Layout
import PatternAlgebra.Proofs.Text.Offsets
import PatternAlgebra.Regex.Basic

/-! The stream of a regular expression. Walking through the matches with a tracker for offsets
shows a visitor the plain list of gaps, matches and groups, as far as the selection asks for them,
and the first match that is located is the first one of the list. -/
namespace PatternAlgebra.Regex

open Engine Fragment

def inText (t : Text) (m : Match Span) : Match CharRange :=
  (m.map (Program.toByteSpan t)).map (CharRange.ofByteSpan t)

/-- The matches in a target with all of their groups, by characters. -/
def occurrences (r : Regex) (t : Text) : List (Match CharRange) :=
  (r.program.events t).map (·.map (CharRange.ofByteSpan t))

/-- All fragments of a target. Without a match there are none. -/
def shown (r : Regex) (t : Text) : List (Fragment CharRange) :=
  match r.occurrences t with
  | [] => []
  | ms => layout t.length 0 ms

lemma shown_of_ne_nil {r : Regex} {t : Text} (h : r.occurrences t ≠ []) :
    r.shown t = layout t.length 0 (r.occurrences t) := by
  unfold shown
  split
  · contradiction
  · rfl

lemma restrict_shallow_shown_eq_nil_iff (r : Regex) (t : Text) :
    Selection.shallow.restrict 0 (r.shown t) = [] ↔ r.occurrences t = [] := by
  unfold shown
  cases r.occurrences t with
  | nil => simp
  | cons m ms => simp [Selection.restrict_layout_cons (Selection.allows_shallow _)]

lemma occurrences_eq_inText (r : Regex) (t : Text) :
    r.occurrences t = (r.program.searchText t).1.map (inText t) := by
  simp [occurrences, Program.events, inText]

variable {σ : Type}

lemma visitGroups_eq (visit : Visitor σ) {t : Text} (gs : List (Option Span)) (id : ℕ)
    {offsets : OffsetTracker} (hk : offsets.Tracks t) (p : σ × Bool) :
    (visitGroups visit id (gs.map (Option.map (Program.toByteSpan t))) offsets p).2 =
        visit.run (groupsFrom id ((gs.map (Option.map (Program.toByteSpan t))).map
          (Option.map (CharRange.ofByteSpan t)))) p ∧
      (visitGroups visit id (gs.map (Option.map (Program.toByteSpan t))) offsets p).1.Tracks t := by
  induction gs generalizing id offsets p with
  | nil => exact ⟨rfl, hk⟩
  | cons g gs ih =>
    cases g with
    | none => exact ih (id + 1) hk p
    | some s =>
      simp only [List.map_cons, Option.map_some, visitGroups, groupsFrom, Visitor.run_cons,
        ← hk.range_eq s]
      exact ih (id + 1) (hk.range_tracks s) _

/-- What one match contributes to a stream under a selection. -/
def contribution (selection : Selection) (previous : ℕ) (m : Match CharRange) :
    List (Fragment CharRange) :=
  (if selection.allowsKind .unmatched && previous < m.whole.start then
    [.unmatched (.ofBounds previous m.whole.start)] else []) ++
  ((if selection.allowsKind .matched then [.matched m.whole] else []) ++
    if selection.allowsKind .group then groupsFrom 0 m.groups else [])

/-- Walking past a match shows its contribution and leaves the walk at its end. -/
lemma visitMatch_eq (selection : Selection) (visit : Visitor σ) {t : Text} {walk : Walk}
    (hk : walk.offsets.Tracks t) (m : Match Span) (s : σ) :
    (visitMatch selection visit walk (m.map (Program.toByteSpan t)) s).2 =
        visit.run (contribution selection walk.marker (inText t m)) (s, true) ∧
      (visitMatch selection visit walk (m.map (Program.toByteSpan t)) s).1.marker =
        (inText t m).whole.stop ∧
      (visitMatch selection visit walk (m.map (Program.toByteSpan t)) s).1.offsets.Tracks t := by
  have hr : (walk.offsets.range (m.map (Program.toByteSpan t)).whole).1 = (inText t m).whole :=
    hk.range_eq m.whole
  have ht : (walk.offsets.range (m.map (Program.toByteSpan t)).whole).2.Tracks t :=
    hk.range_tracks m.whole
  simp only [visitMatch, contribution, Visitor.run_append, hr, ← Visitor.offer_eq_run]
  by_cases hg : selection.allowsKind .group
  · simp only [hg, if_true]
    have := visitGroups_eq visit m.groups 0 ht
    exact ⟨(this _).1, trivial, (this _).2⟩
  · simp only [hg]
    exact ⟨rfl, trivial, ht⟩

lemma restrict_layout_contribution {selection : Selection} {count : ℕ}
    (h : selection.allows (count + 1)) (stop previous : ℕ) (m : Match CharRange)
    (ms : List (Match CharRange)) :
    selection.restrict count (layout stop previous (m :: ms)) =
      contribution selection previous m ++
        selection.restrict (count + 1) (layout stop m.whole.stop ms) := by
  simp [Selection.restrict_layout_cons h, contribution]

lemma visitMatches_eq {selection : Selection} (visit : Visitor σ) {t : Text} {count : ℕ}
    {walk : Walk} (h : selection.allows (count + 1)) (hk : walk.offsets.Tracks t)
    (ms : List (Match Span)) (hm : 0 < count ∨ ms ≠ []) (s : σ) :
    (visitMatches selection visit t count walk (ms.map (·.map (Program.toByteSpan t))) s).2 =
      (visit.run (selection.restrict count (layout t.length walk.marker (ms.map (inText t))))
        (s, true)).1 := by
  induction ms generalizing count walk s with
  | nil =>
    have hc : 0 < count := by simpa using hm
    simp only [List.map_nil, visitMatches, Selection.restrict_layout_nil h, hc, decide_true,
      Bool.true_and, hk.charAt_end]
    by_cases hu : selection.allowsKind .unmatched
    · simp [hu, Visitor.offer_eq_run]
    · simp [hu]
  | cons m ms ih =>
    obtain ⟨hp, hmark, htr⟩ := visitMatch_eq selection visit hk m s
    simp only [List.map_cons, visitMatches, restrict_layout_contribution h, Visitor.run_append, ← hp]
    generalize visitMatch selection visit walk (m.map (Program.toByteSpan t)) s = v at *
    obtain ⟨walk', s', more⟩ := v
    simp only at hmark htr ⊢
    cases more with
    | false => simp [Visitor.run_stopped]
    | true =>
      by_cases hn : selection.allows (count + 2)
      · simpa [hn, hmark] using ih hn htr (Or.inl (Nat.succ_pos _)) s'
      · simp [hn, Selection.restrict_layout_full hn]

lemma visitMatches_count {selection : Selection} {visit : Visitor σ}
    (hv : ∀ f s, (visit f s).2 = true) {t : Text} {count : ℕ} {walk : Walk}
    (h : selection.allows (count + 1)) (hk : walk.offsets.Tracks t) (ms : List (Match Span)) (s : σ) :
    (visitMatches selection visit t count walk (ms.map (·.map (Program.toByteSpan t))) s).1 =
      selection.clip (count + ms.length) := by
  induction ms generalizing count walk s with
  | nil =>
    have hc := Selection.clip_of_allows (Selection.allows_of_succ h)
    simp only [List.map_nil, visitMatches, List.length_nil, Nat.add_zero, hc]
    split_ifs <;> rfl
  | cons m ms ih =>
    obtain ⟨hp, -, htr⟩ := visitMatch_eq selection visit hk m s
    rw [Visitor.run_of_neverStops hv] at hp
    simp only [List.map_cons, visitMatches, List.length_cons]
    generalize visitMatch selection visit walk (m.map (Program.toByteSpan t)) s = v at *
    obtain ⟨walk', s', more⟩ := v
    obtain rfl : more = true := congrArg Prod.snd hp
    by_cases hn : selection.allows (count + 2)
    · simpa [hn, Nat.add_assoc, Nat.add_comm 1] using ih hn htr s'
    · simp only [hn, Bool.and_false, Bool.false_eq_true, if_false]
      exact (Selection.clip_of_not_allows h hn (by omega)).symm

lemma restrict_shown_full {selection : Selection} (h : ¬selection.allows 1) (r : Regex) (t : Text) :
    selection.restrict 0 (r.shown t) = [] := by
  unfold shown
  split
  · exact Selection.restrict_nil
  · exact Selection.restrict_layout_full h _ _ _

/-- Whatever the visitor does, it is shown what the selection leaves of the stream. -/
theorem iterate_eq_run (r : Regex) (t : Text) (selection : Selection) (visit : Visitor σ) (s : σ) :
    (r.iterate t selection visit s).2 =
      (visit.run (selection.restrict 0 (r.shown t)) (s, true)).1 := by
  by_cases h : selection.allows 1
  · simp only [iterate, h, if_true, Program.events, shown, occurrences_eq_inText]
    cases hms : (r.program.searchText t).1 with
    | nil => simp [visitMatches]
    | cons m ms =>
      exact visitMatches_eq visit h (OffsetTracker.tracks_ofText t) (m :: ms) (Or.inr (by simp)) s
  · simp [iterate, h, restrict_shown_full h]

theorem iterate_count (r : Regex) (t : Text) (selection : Selection) {visit : Visitor σ}
    (hv : ∀ f s, (visit f s).2 = true) (s : σ) :
    (r.iterate t selection visit s).1 = selection.clip (matchCount (r.shown t)) := by
  have hlen : matchCount (r.shown t) = (r.program.searchText t).1.length := by
    simp only [shown, occurrences_eq_inText]
    cases (r.program.searchText t).1 with
    | nil => rfl
    | cons m ms => simpa using matchCount_layout t.length 0 ((m :: ms).map (inText t))
  rw [hlen]
  by_cases h : selection.allows 1
  · simp only [iterate, h, if_true, Program.events]
    simpa using visitMatches_count hv h (OffsetTracker.tracks_ofText t) (r.program.searchText t).1 s
  · simp [iterate, h, Selection.clip_of_full h]

lemma walksToEnd_of_neverStops {selection : Selection} (hl : selection.limit = none)
    {visit : Visitor σ} (hv : ∀ f s, (visit f s).2 = true) {t : Text} {walk : Walk}
    (hk : walk.offsets.Tracks t) (count : ℕ) (ms : List (Match Span)) (s : σ) :
    walksToEnd selection visit count walk (ms.map (·.map (Program.toByteSpan t))) s = true := by
  induction ms generalizing count walk s with
  | nil => rfl
  | cons m ms ih =>
    obtain ⟨hp, -, htr⟩ := visitMatch_eq selection visit hk m s
    rw [Visitor.run_of_neverStops hv] at hp
    simp only [List.map_cons, walksToEnd, Selection.allows_of_no_limit hl, hp, Bool.true_and]
    exact ih htr (count + 1) _

/-- A visitor that never stops needs the search behind the last match, and that search alone. -/
lemma iterateBreaks_of_neverStops (r : Regex) (t : Text) {selection : Selection}
    (hl : selection.limit = none) {visit : Visitor σ} (hv : ∀ f s, (visit f s).2 = true) (s : σ) :
    r.iterateBreaks t selection visit s = r.program.breaksAtLast t := by
  rw [iterateBreaks, Selection.allows_of_no_limit hl, Program.events,
    walksToEnd_of_neverStops hl hv (OffsetTracker.tracks_ofText t), Bool.true_and, Bool.and_true]

lemma searchText_head? (p : Program) (t : Text) :
    (p.searchText t).1.head? = (p.search t.toArray 0).toOption := by
  unfold Program.searchText Program.searchAll
  cases p.search t.toArray 0 with
  | found m => simp [Answer.toOption]
  | missing => rfl
  | broken => rfl

/-- The first match is the first one of the stream. -/
theorem locate_eq (r : Regex) (t : Text) :
    r.locate t = (r.occurrences t).head?.map (·.whole) := by
  rw [occurrences_eq_inText, List.head?_map, searchText_head?, locate, Program.find?]
  cases (r.program.search t.toArray 0).toOption with
  | none => rfl
  | some m => exact CharRange.ofBytes?_toByteSpan t m.whole

/-- The regular expression that matches one letter. -/
def letter (c : Char) : Regex where
  grammar := [c]
  flags := .ofCase true
  program := { body := .regular (.set (.single c)), groups := 0, lastGroup := 0, names := [] }

example : Regex.compile? ['a'] (.ofCase true) = some (letter 'a') := by decide +kernel

end PatternAlgebra.Regex
