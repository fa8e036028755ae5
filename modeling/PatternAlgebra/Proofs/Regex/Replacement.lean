import PatternAlgebra.Proofs.Regex.Order
import PatternAlgebra.Proofs.Regex.Template

/-! Replacement by a regular expression. The loop over byte offsets copies what lies between the
matches, by characters. So an escaped text takes the place of each match in the stream, and nothing
else changes. A replacement is broken off only where a search is or where matches overlap. -/
namespace PatternAlgebra

namespace Fragment

/-- The text of a stream in which each match is replaced by `s`. -/
def spliced (t s : Text) (fs : List (Fragment CharRange)) : Text :=
  fs.flatMap fun
    | .matched _ => s
    | .unmatched range => range.slice t
    | .group _ _ => []

@[simp] lemma spliced_nil (t s : Text) : spliced t s [] = [] := rfl

@[simp] lemma spliced_matched (t s : Text) (q : CharRange) (fs : List (Fragment CharRange)) :
    spliced t s (.matched q :: fs) = s ++ spliced t s fs := rfl

@[simp] lemma spliced_unmatched (t s : Text) (q : CharRange) (fs : List (Fragment CharRange)) :
    spliced t s (.unmatched q :: fs) = q.slice t ++ spliced t s fs := rfl

@[simp] lemma spliced_group (t s : Text) (q : CharRange) (id : ℕ) (fs : List (Fragment CharRange)) :
    spliced t s (.group q id :: fs) = spliced t s fs := rfl

lemma spliced_append (t s : Text) (fs gs : List (Fragment CharRange)) :
    spliced t s (fs ++ gs) = spliced t s fs ++ spliced t s gs := List.flatMap_append

lemma spliced_gap (t s : Text) (p q : ℕ) : spliced t s (gap p q) = (t.drop p).take (q - p) := by
  unfold gap
  split_ifs with h
  · rw [spliced_unmatched, CharRange.slice_eq_take_drop, spliced_nil, List.append_nil]
    simp [CharRange.ofBounds, h.le]
  · rw [Nat.sub_eq_zero_of_le (not_lt.mp h), List.take_zero, spliced_nil]

lemma spliced_groupsFrom (t s : Text) (id : ℕ) (gs : List (Option CharRange)) :
    spliced t s (groupsFrom id gs) = [] := by
  induction gs generalizing id with
  | nil => rfl
  | cons g gs ih => cases g <;> simp [groupsFrom, ih]

lemma spliced_restrict_shallow (t s : Text) (count : ℕ) (fs : List (Fragment CharRange)) :
    spliced t s (Selection.shallow.restrict count fs) = spliced t s fs := by
  rw [Selection.restrict_shallow]
  induction fs with
  | nil => rfl
  | cons f fs ih =>
    cases f with
    | matched q => exact congrArg (s ++ ·) ih
    | unmatched q => exact congrArg (q.slice t ++ ·) ih
    | group q id => exact ih

/-- The end of a text cuts nothing off from what lies between two positions. -/
lemma take_drop_min (t : Text) (p q : ℕ) :
    (t.drop (min p t.length)).take (min q t.length - min p t.length) = (t.drop p).take (q - p) := by
  rw [← Text.sliceBytes_bytesBefore, ← Text.sliceBytes_bytesBefore, Text.bytesBefore_min,
    Text.bytesBefore_min]

end Fragment

namespace Regex

open Engine Fragment

variable {r : Regex} {t : Text}

lemma replaceFrom_nil (r : Regex) (t template : Text) (p : ℕ) :
    r.replaceFrom t template (t.bytesBefore p) [] = t.drop p := by
  rw [replaceFrom, Text.dropBytes_bytesBefore]

lemma replaceFrom_cons (r : Regex) (t template : Text) (p : ℕ) (m : Match Span)
    (ms : List (Match ByteSpan)) :
    r.replaceFrom t template (t.bytesBefore p) (m.map (Program.toByteSpan t) :: ms) =
      (t.drop p).take (m.whole.start - p) ++
        Engine.expand (r.groupText t (m.map (Program.toByteSpan t))) template ++
          r.replaceFrom t template (t.bytesBefore m.whole.stop) ms := by
  rw [replaceFrom, ← Text.sliceBytes_bytesBefore]
  rfl

/-- If the template says the same about each match, the text is that of the stream. -/
lemma replaceFrom_eq_spliced {template s : Text}
    (h : ∀ m, Engine.expand (r.groupText t m) template = s) (p : ℕ) {ms : List (Match Span)}
    (hms : ∀ m ∈ ms, m.whole.start ≤ m.whole.stop) :
    r.replaceFrom t template (t.bytesBefore p) (ms.map (·.map (Program.toByteSpan t))) =
      spliced t s (layout t.length (min p t.length) (ms.map (inText t))) := by
  induction ms generalizing p with
  | nil =>
    have hend := take_drop_min t p t.length
    rw [Nat.min_self, List.take_of_length_le (List.length_drop (i := p) (l := t)).le] at hend
    rw [List.map_nil, List.map_nil, replaceFrom_nil, layout, spliced_gap, hend]
  | cons m ms ih =>
    obtain ⟨hm, hms⟩ := List.forall_mem_cons.mp hms
    obtain ⟨hstart, hstop⟩ := whole_inText hm t
    rw [List.map_cons, List.map_cons, replaceFrom_cons, h, ih m.whole.stop hms, layout,
      spliced_append, spliced_gap, spliced_matched, spliced_append, spliced_groupsFrom, hstart,
      hstop, take_drop_min, List.nil_append, List.append_assoc]

/-- An escaped text takes the place of each match in the stream. A target without matches stays as
it is. -/
theorem replaceMatches_escape (r : Regex) (t s : Text) :
    r.replaceMatches t (Template.escape s) =
      if r.occurrences t = [] then t else spliced t s (r.shown t) := by
  have hconst (m : Match ByteSpan) : Engine.expand (r.groupText t m)
      (Template.encode (Template.parse r.captureCount (Template.escape s))) = s :=
    Template.expand_escape _ _ s
  have hspans := r.program.start_le_stop_of_mem_searchText t
  have hreplaced := replaceFrom_eq_spliced hconst 0 hspans
  rw [Text.bytesBefore_zero, Nat.zero_min] at hreplaced
  have hmatches : r.replaceMatches t (Template.escape s) =
      spliced t s (layout t.length 0 (r.occurrences t)) := by
    rw [occurrences_eq_inText]
    exact hreplaced
  rw [hmatches]
  split_ifs with hnone
  · rw [hnone, layout, spliced_gap, List.drop_zero, Nat.sub_zero, List.take_length]
  · rw [shown_of_ne_nil hnone]

lemma areOutOfOrder_eq_false_iff {p : ℕ} {q : CharRange} (hq : q.stop = min p t.length)
    {ms : List (Match Span)} (hms : ∀ m ∈ ms, m.whole.start ≤ m.whole.stop) :
    Program.areOutOfOrder (t.bytesBefore p) (ms.map (·.map (Program.toByteSpan t))) = false ↔
      (q :: (ms.map (inText t)).map (·.whole)).IsChain (·.stop ≤ ·.start) := by
  induction ms generalizing p q with
  | nil => simp [Program.areOutOfOrder]
  | cons m ms ih =>
    obtain ⟨hm, hms⟩ := List.forall_mem_cons.mp hms
    obtain ⟨hstart, hstop⟩ := whole_inText hm t
    have hrest := ih hstop hms
    have hle := Text.bytesBefore_le_iff t p m.whole.start
    rw [← hq, ← hstart] at hle
    rw [List.map_cons, List.map_cons, List.map_cons, List.isChain_cons_cons, ← hrest, ← hle,
      Program.areOutOfOrder, Bool.or_eq_false_iff, decide_eq_false_iff_not, not_lt]
    rfl

/-- A replacement is broken off just if a search for a match is or the matches are out of order. -/
theorem replaceBreaks_eq_false_iff (r : Regex) (t : Text) :
    r.replaceBreaks t = false ↔ r.program.breaksAtLast t = false ∧ r.InOrder t := by
  have hspans := r.program.start_le_stop_of_mem_searchText t
  have horder : Program.areOutOfOrder 0 (r.program.events t) = false ↔ r.InOrder t := by
    have hstart : (CharRange.ofBounds 0 0).stop = min 0 t.length := (Nat.zero_min _).symm
    have hfrom := areOutOfOrder_eq_false_iff hstart hspans
    rw [Text.bytesBefore_zero, List.isChain_cons, ← occurrences_eq_inText] at hfrom
    exact hfrom.trans (and_iff_right fun q _ => Nat.zero_le q.start)
  rw [replaceBreaks, Bool.or_eq_false_iff, Program.stepsBack, Bool.and_eq_false_iff, horder]
  exact and_congr_right fun _ => or_iff_right_of_imp fun h => inOrder_of_not_canStepBack h t

end Regex

end PatternAlgebra
