import PatternAlgebra.Proofs.Matcher.Breakage
import PatternAlgebra.Proofs.Matcher.Configuration
import PatternAlgebra.Proofs.Matcher.Greedy
import PatternAlgebra.Proofs.Regex.Order

/-! The matched and unmatched regions of a stream make up the target. Gaps fill what ascending
matches leave, a union's matches are ascending, and an inversion only swaps the roles. What this
asks of the engine is that its matches come one behind the other. -/
namespace PatternAlgebra

open Fragment

namespace CharRange

/-- Ranges that cover a stretch of positions without gaps: the first starts at its beginning, each
next one where the one before it ends, and the last ends at its end. -/
inductive Tiles : ℕ → ℕ → List CharRange → Prop
  | nil (a : ℕ) : Tiles a a []
  | cons (r : CharRange) {b : ℕ} {rs : List CharRange} : Tiles r.stop b rs → Tiles r.start b (r :: rs)

namespace Tiles

variable {a b c : ℕ} {rs qs : List CharRange}

lemma ofBounds (h : a ≤ b) : Tiles a b [.ofBounds a b] := by
  have htile : Tiles a (max a b) [.ofBounds a b] := (nil _).cons (.ofBounds a b)
  rwa [Nat.max_eq_right h] at htile

lemma append (h₁ : Tiles a b rs) (h₂ : Tiles b c qs) : Tiles a c (rs ++ qs) := by
  induction h₁ with
  | nil a => exact h₂
  | cons r _ ih => exact (ih h₂).cons r

lemma le (h : Tiles a b rs) : a ≤ b := by
  induction h with
  | nil a => exact le_rfl
  | cons r _ ih => exact r.start_le_stop.trans ih

lemma start_eq {r : CharRange} (h : Tiles a b (r :: rs)) : r.start = a := by
  cases h
  rfl

lemma stop_le (h : Tiles a b rs) {r : CharRange} (hr : r ∈ rs) : r.stop ≤ b := by
  induction h with
  | nil a => simp at hr
  | cons q hq ih =>
    rcases List.mem_cons.mp hr with rfl | hr
    · exact hq.le
    · exact ih hr

theorem flatMap_slice (h : Tiles a b rs) (t : Text) :
    rs.flatMap (·.slice t) = (t.drop a).take (b - a) := by
  induction h with
  | nil a => simp
  | @cons r b rs h ih =>
    have hr := r.start_le_stop
    have hle := h.le
    have hsplit : b - r.start = (r.stop - r.start) + (b - r.stop) := by omega
    rw [List.flatMap_cons, ih, slice_eq_take_drop, hsplit, List.take_add, List.drop_drop,
      Nat.add_sub_cancel' hr]

end Tiles

/-- Ranges between two positions, none of which starts before the one in front of it ends. -/
def Ascends (stop : ℕ) : (previous : ℕ) → List CharRange → Prop
  | previous, [] => previous ≤ stop
  | previous, r :: rs => previous ≤ r.start ∧ Ascends stop r.stop rs

lemma Ascends.le {stop previous : ℕ} {rs : List CharRange} (h : Ascends stop previous rs) :
    previous ≤ stop := by
  induction rs generalizing previous with
  | nil => exact h
  | cons r rs ih =>
    obtain ⟨hstart, hrest⟩ := h
    exact hstart.trans (r.start_le_stop.trans (ih hrest))

lemma ascends_of_isChain {stop previous : ℕ} {rs : List CharRange} (hle : previous ≤ stop)
    (hprev : ∀ r ∈ rs.head?, previous ≤ r.start) (hchain : rs.IsChain (·.stop ≤ ·.start))
    (hstop : ∀ r ∈ rs, r.stop ≤ stop) : Ascends stop previous rs := by
  induction rs generalizing previous with
  | nil => exact hle
  | cons r rs ih =>
    obtain ⟨hr, hrs⟩ := List.forall_mem_cons.mp hstop
    obtain ⟨hnext, hrest⟩ := List.isChain_cons.mp hchain
    exact ⟨hprev r rfl, ih hr hnext hrest hrs⟩

end CharRange

open CharRange

lemma tiles_gap {previous start : ℕ} (h : previous ≤ start) :
    Tiles previous start ((gap previous start).map content) := by
  unfold gap
  split_ifs with hlt
  · exact .ofBounds h
  · obtain rfl : previous = start := by omega
    exact .nil previous

/-- Ascending matches and the gaps between them cover everything up to the end. -/
lemma tiles_layout (count : ℕ) {stop previous : ℕ} {ms : List (Engine.Match CharRange)}
    (h : Ascends stop previous (ms.map (·.whole))) :
    Tiles previous stop ((Selection.shallow.restrict count (layout stop previous ms)).map content) := by
  induction ms generalizing previous count with
  | nil =>
    rw [Selection.restrict_layout_nil (Selection.allows_shallow _)]
    simpa [gap] using tiles_gap h
  | cons m ms ih =>
    obtain ⟨hstart, hrest⟩ := h
    have htile := (tiles_gap hstart).append ((ih (count + 1) hrest).cons m.whole)
    rw [Selection.restrict_layout_cons (Selection.allows_shallow _)]
    simpa [gap, content] using htile

namespace Regex

lemma InOrder.ascends {r : Regex} {t : Text} (h : r.InOrder t) :
    Ascends t.length 0 ((r.occurrences t).map (·.whole)) :=
  ascends_of_isChain (Nat.zero_le _) (fun _ _ => Nat.zero_le _) h (stop_le_of_mem_wholes r t)

lemma tiles_shown {r : Regex} {t : Text} (hr : r.InOrder t) (hne : r.occurrences t ≠ []) :
    Tiles 0 t.length ((Selection.shallow.restrict 0 (r.shown t)).map content) := by
  rw [shown_of_ne_nil hne]
  exact tiles_layout 0 hr.ascends

end Regex

namespace Matcher

/-- A matcher that is made of the library's own parts, with regular expressions whose matches in a
text come one behind the other. -/
inductive Orderly (t : Text) : Matcher → Prop
  | regex {r : Regex} (h : r.InOrder t) : Orderly t (.regex r)
  | nothing : Orderly t .nothing
  | whole : Orderly t .whole
  | conjunction {ms : List Matcher} (h : ∀ m ∈ ms, Orderly t m) : Orderly t (.conjunction ms)
  | disjunction {ms : List Matcher} (h : ∀ m ∈ ms, Orderly t m) : Orderly t (.disjunction ms)
  | inversion {m : Matcher} (h : Orderly t m) : Orderly t (.inversion m)

variable {t : Text} {m : Matcher} {ms : List Matcher}

lemma Orderly.not_scripted (h : Orderly t m) (script : Script) : m ≠ .scripted script := by
  rintro rfl
  cases h

def regions (m : Matcher) (t : Text) : List CharRange := (m.ranges t .shallow).map content

lemma mem_regions_of_match (h : Orderly t m) {r : CharRange}
    (hr : r ∈ matchedRanges (m.ranges t .matchesOnly)) : r ∈ m.regions t := by
  have hshown : m.ranges t .matchesOnly = m.matchRanges t := rfl
  rw [hshown, matchRanges_eq_map h.not_scripted, matchedRanges_map_matched, mem_matchedRanges] at hr
  exact List.mem_map_of_mem hr

lemma regions_regex_of_no_match {r : Regex} (h : r.program.events t = []) :
    (regex r).regions t = [] := by
  simp [regions, ranges_regex, Regex.shown, Regex.occurrences, h]

lemma tiles_whole (t : Text) : Tiles 0 t.length [.whole t] := (Tiles.nil _).cons (.whole t)

/-- The merged matches of a combination and the gaps between them cover the target, provided that
the matches of the children are inside. -/
lemma tiles_combination (h : Combines m ms)
    (hin : ∀ r ∈ candidates ms t, r.stop ≤ t.length) : Tiles 0 t.length (m.regions t) := by
  rw [regions, ranges_combination h]
  split_ifs with hm hkind
  · have hchain : (merged ms t).IsChain (·.stop ≤ ·.start) :=
      ((pairwise_merged ms t).imp And.left).isChain
    have hstop : ∀ r ∈ merged ms t, r.stop ≤ t.length :=
      fun r hr => hin r (Union.mem_of_mem_foldl_keep (mem_merged.mp hr))
    refine tiles_layout 0 ?_
    rw [Union.map_whole_bare]
    exact ascends_of_isChain (Nat.zero_le _) (fun _ _ => Nat.zero_le _) hchain hstop
  · exact tiles_whole t
  · simp at hkind

lemma map_content_swapped {fs : List (Fragment CharRange)} (h : ∀ f ∈ fs, f.kind ≠ .group) :
    (swapped fs).map content = fs.map content := by
  induction fs with
  | nil => rfl
  | cons f fs ih =>
    have hrest := ih fun g hg => h g (by simp [hg])
    cases f with
    | matched r => simp [hrest, content]
    | unmatched r => simp [hrest, content]
    | group r id => exact absurd rfl (h (.group r id) (by simp))

lemma kind_of_mem_ranges_shallow (hm : ∀ script, m ≠ .scripted script) {f : Fragment CharRange}
    (hf : f ∈ m.ranges t .shallow) : f.kind ≠ .group := by
  rw [ranges_eq_restrict hm t rfl, Selection.restrict_shallow] at hf
  simpa using (List.mem_filter.mp hf).2

lemma ranges_inversion_shallow (m : Matcher) (t : Text) :
    (inversion m).ranges t .shallow = inverted t (m.ranges t .shallow) := by
  rw [ranges_inversion, Selection.restrict_shallow, List.filter_eq_self]
  exact fun f hf => by simpa using kind_of_mem_inverted hf

/-- An inversion has the regions of its source, or one region if the source shows none. -/
lemma regions_inversion (hm : ∀ script, m ≠ .scripted script) :
    (inversion m).regions t = if m.regions t = [] then [.whole t] else m.regions t := by
  rw [regions, ranges_inversion_shallow, regions]
  cases hfs : m.ranges t .shallow with
  | nil => rfl
  | cons f fs =>
    have hgroupless : ∀ g ∈ f :: fs, g.kind ≠ .group :=
      fun g hg => kind_of_mem_ranges_shallow hm (hfs ▸ hg)
    simpa [inverted] using map_content_swapped hgroupless

lemma tiles_regions (h : Orderly t m) (hm : ∀ r, m = .regex r → r.program.events t ≠ []) :
    Tiles 0 t.length (m.regions t) := by
  have hinside {ms : List Matcher} (hms : ∀ c ∈ ms, Orderly t c)
      (ih : ∀ c ∈ ms, (∀ r, c = .regex r → r.program.events t ≠ []) → Tiles 0 t.length (c.regions t)) :
      ∀ r ∈ candidates ms t, r.stop ≤ t.length := by
    intro r hr
    obtain ⟨c, hc, hr⟩ := List.mem_flatMap.mp hr
    have hmem := mem_regions_of_match (hms c hc) hr
    refine (ih c hc ?_).stop_le hmem
    -- a child without a match does not cover the target, but has no candidates either
    rintro q rfl hnone
    simp [regions_regex_of_no_match hnone] at hmem
  induction h with
  | @regex r h =>
    have hne : r.occurrences t ≠ [] := by simpa [Regex.occurrences] using hm r rfl
    rw [regions, ranges_regex]
    exact Regex.tiles_shown h hne
  | nothing =>
    rw [regions, ranges_nothing]
    exact tiles_whole t
  | whole =>
    rw [regions, ranges_whole, Selection.restrict_shallow]
    exact tiles_whole t
  | conjunction hms ih => exact tiles_combination (.conjunction _) (hinside hms ih)
  | disjunction hms ih => exact tiles_combination (.disjunction _) (hinside hms ih)
  | inversion h ih =>
    rw [regions_inversion h.not_scripted]
    split_ifs with hnone
    · exact tiles_whole t
    · refine ih ?_
      rintro r rfl hevents
      exact hnone (regions_regex_of_no_match hevents)

/-- The matched and unmatched ranges of a matcher cover the target from its beginning to its end,
and their slices make it up. Only a regular expression without a match shows nothing. The stream is
not broken off if no search in the target is. -/
theorem ranges_reconstruct_target (h : Orderly t m) (payload : Option Text) :
    let shown := m.ranges t { Selection.shallow with payload }
    (∀ f ∈ shown, f.kind = .matched ∨ f.kind = .unmatched) ∧
      (∀ r, m = .regex r → r.program.events t = [] → shown = []) ∧
      ((∀ r, m = .regex r → r.program.events t ≠ []) →
        Tiles 0 t.length (shown.map content) ∧ shown.flatMap (fun f => f.content.slice t) = t) ∧
      (Steady t m →
        m.breaksOff t (.iterate { Selection.shallow with payload } none) = false) := by
  intro shown
  have hshown : shown = m.ranges t .shallow := ranges_payload m t .shallow payload
  rw [hshown]
  refine ⟨fun f hf => ?_, ?_, fun hm => ?_, fun hsteady => hsteady.breaksOff_eq_false (by simp)⟩
  · have hkind := kind_of_mem_ranges_shallow h.not_scripted hf
    cases f <;> simp_all [kind]
  · rintro r rfl hnone
    exact List.map_eq_nil_iff.mp (regions_regex_of_no_match hnone)
  · have htile := tiles_regions h hm
    refine ⟨htile, ?_⟩
    simpa [regions, List.flatMap_map] using htile.flatMap_slice t

/-- What `a` and the gaps of `b` match in `aba` makes it up. -/
theorem ranges_reconstruct_target_letters :
    let m := disjunction [regex (.letter 'a'), inversion (regex (.letter 'b'))]
    Orderly ['a', 'b', 'a'] m ∧
      m.ranges ['a', 'b', 'a'] .shallow =
        [.matched (.ofBounds 0 1), .unmatched (.ofBounds 1 2), .matched (.ofBounds 2 3)] ∧
      Tiles 0 3 ((m.ranges ['a', 'b', 'a'] .shallow).map content) ∧
      m.breaksOff ['a', 'b', 'a'] (.iterate .shallow none) = false := by
  intro m
  have hletter (c : Char) : (Regex.letter c).InOrder ['a', 'b', 'a'] :=
    Regex.inOrder_of_not_canStepBack rfl _
  have h : Orderly ['a', 'b', 'a'] m := by
    refine .disjunction fun c hc => ?_
    rcases List.mem_cons.mp hc with rfl | hc
    · exact .regex (hletter 'a')
    · rw [List.mem_singleton.mp hc]
      exact .inversion (.regex (hletter 'b'))
  have hsteady : Steady ['a', 'b', 'a'] m := by
    refine .disjunction fun c hc => ?_
    rcases List.mem_cons.mp hc with rfl | hc
    · exact .of_not_canBreak rfl _
    · rw [List.mem_singleton.mp hc]
      exact .inversion fun u _ => .of_not_canBreak rfl u
  obtain ⟨-, -, hcover, hreturns⟩ := ranges_reconstruct_target h none
  exact ⟨h, by cbv, (hcover (by simp [m])).1, hreturns hsteady⟩

end Matcher

end PatternAlgebra
