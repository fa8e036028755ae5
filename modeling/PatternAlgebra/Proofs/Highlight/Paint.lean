import PatternAlgebra.Highlight.Style
import PatternAlgebra.Proofs.Text.Offsets

/-! The spans of a painted line make it up, whatever the fragments are: matches and groups that would
go back behind what is painted are passed over, and where a match ends the next span starts. So a
highlighter without styles leaves lines as they are. -/
namespace PatternAlgebra

namespace Paint

variable {line : Text} {a b c : ℕ}

lemma drop_eq_take_append (h : a ≤ b) : line.drop a = (line.drop a).take (b - a) ++ line.drop b := by
  have hb : line.drop b = (line.drop a).drop (b - a) := by rw [List.drop_drop, Nat.add_sub_cancel' h]
  rw [hb, List.take_append_drop]

lemma take_drop_append (hab : a ≤ b) (hbc : b ≤ c) :
    (line.drop a).take (b - a) ++ (line.drop b).take (c - b) = (line.drop a).take (c - a) := by
  have hlen : c - a = (b - a) + (c - b) := by omega
  rw [hlen, List.take_add, List.drop_drop, Nat.add_sub_cancel' hab]

lemma flatMap_span (line : Text) (paint : Paint) (a b : ℕ) :
    (span line paint a b).flatMap Prod.snd = (line.drop a).take (b - a) := by
  unfold span
  split_ifs with h
  · have hstop : (CharRange.ofBounds a b).stop = b := Nat.max_eq_right h.le
    rw [List.flatMap_singleton, CharRange.slice_eq_take_drop, hstop]
    rfl
  · rw [Nat.sub_eq_zero_of_le (Nat.le_of_not_lt h), List.take_zero, List.flatMap_nil]

/-- What is painted of a match from a position on is the rest of it, whichever groups are painted. -/
lemma flatMap_matchSpans {range : CharRange} {inner : ℕ} (h : inner ≤ range.stop)
    (fs : List (Fragment CharRange)) :
    (matchSpans line range inner fs).flatMap Prod.snd = (line.drop inner).take (range.stop - inner) := by
  induction fs generalizing inner with
  | nil => simp [matchSpans, flatMap_span]
  | cons f fs ih =>
    cases f with
    | matched _ => simp [matchSpans, flatMap_span]
    | unmatched _ => simp [matchSpans, flatMap_span]
    | group g id =>
      rw [matchSpans]
      split_ifs with hskip
      · exact ih h
      · have hg := g.start_le_stop
        have hinside : inner ≤ g.start ∧ g.stop ≤ range.stop := by simpa using hskip
        rw [List.flatMap_append, List.flatMap_append, flatMap_span, flatMap_span, ih hinside.2,
          take_drop_append hinside.1 hg, take_drop_append (hinside.1.trans hg) hinside.2]

lemma flatMap_spansFrom (line : Text) (cursor : ℕ) (fs : List (Fragment CharRange)) :
    (spansFrom line cursor fs).flatMap Prod.snd = line.drop cursor := by
  induction fs generalizing cursor with
  | nil =>
    rw [spansFrom, flatMap_span, List.take_of_length_le (by rw [List.length_drop])]
  | cons f fs ih =>
    cases f with
    | matched range =>
      rw [spansFrom]
      split_ifs with hskip
      · exact ih cursor
      · have hstart : cursor ≤ range.start := Nat.le_of_not_lt hskip
        have hrange := range.start_le_stop
        rw [List.flatMap_append, List.flatMap_append, flatMap_span, flatMap_matchSpans hrange,
          take_drop_append hstart hrange, ih, ← drop_eq_take_append (hstart.trans hrange)]
    | _ => exact ih cursor

/-- The spans of a line make it up. -/
theorem flatMap_spans (line : Text) (fs : List (Fragment CharRange)) :
    (spans line fs).flatMap Prod.snd = line := by
  rw [spans, flatMap_spansFrom, List.drop_zero]

end Paint

namespace Highlighter

lemma style_plain (paint : Paint) : plain.style paint = {} := by
  cases paint <;> rfl

/-- Without styles a line is left as it is. -/
theorem render_plain (line : Text) (fs : List (Fragment CharRange)) : plain.render line fs = line := by
  have hspan (span : Paint × Text) : (plain.style span.1).apply span.2 = span.2 := by
    rw [style_plain]
    rfl
  calc plain.render line fs = (Paint.spans line fs).flatMap Prod.snd :=
        List.flatMap_congr fun span _ => hspan span
    _ = line := Paint.flatMap_spans line fs

/-- No text is lost by painting, whichever fragments overlap, are out of order or reach behind the end
of the line. -/
theorem painting_loses_no_text (line : Text) (fs : List (Fragment CharRange)) :
    (Paint.spans line fs).flatMap Prod.snd = line ∧ plain.render line fs = line :=
  ⟨Paint.flatMap_spans line fs, render_plain line fs⟩

/-- The second match goes back, the first group begins in front of its match, and the last match ends
behind the line. -/
example :
    let fs : List (Fragment CharRange) := [.group (.ofBounds 0 1) 0, .matched (.ofBounds 1 3),
      .group (.ofBounds 0 2) 0, .group (.ofBounds 2 3) 1, .matched (.ofBounds 2 4),
      .matched (.ofBounds 3 9)]
    Paint.spans "äbcde".toList fs = [(.plain, ['ä']), (.matched, ['b']), (.group, ['c']),
      (.matched, ['d', 'e'])] := by decide +kernel

end Highlighter

end PatternAlgebra
