import Mathlib
import PatternAlgebra.Engine.Search
import PatternAlgebra.Text.OffsetTracker

/-! Byte offsets against character positions. An offset between two characters converts to the
number of characters before it, whether it is converted alone, as part of a span, or by a tracker
that remembers where it was. So slices by ranges of characters are what `take` and `drop` give. -/
namespace PatternAlgebra

namespace Text

lemma bytesBefore_cons (c : Char) (t : Text) (n : ℕ) :
    bytesBefore (c :: t) (n + 1) = c.utf8Size + bytesBefore t n := by
  simp [bytesBefore, byteLength]

@[simp] lemma bytesBefore_zero (t : Text) : bytesBefore t 0 = 0 := by
  simp [bytesBefore, byteLength]

@[simp] lemma charsBefore_zero (t : Text) : charsBefore t 0 = 0 := by
  cases t with
  | nil => rfl
  | cons c t => simp [charsBefore, (Char.utf8Size_pos c).ne']

lemma charsBefore_bytesBefore (t : Text) (n : ℕ) :
    charsBefore t (bytesBefore t n) = min n t.length := by
  induction t generalizing n with
  | nil => simp [bytesBefore, byteLength]
  | cons c t ih =>
    cases n with
    | zero => simp
    | succ n => simp [bytesBefore_cons, charsBefore, ih, Nat.succ_min_succ]

lemma dropBytes?_bytesBefore (t : Text) (n : ℕ) :
    dropBytes? t (bytesBefore t n) = some (t.drop n) := by
  induction t generalizing n with
  | nil => simp [bytesBefore, byteLength, dropBytes?]
  | cons c t ih =>
    cases n with
    | zero => simp [dropBytes?]
    | succ n =>
      obtain ⟨k, hk⟩ := Nat.exists_eq_succ_of_ne_zero (Char.utf8Size_pos c).ne'
      have he : k + 1 + bytesBefore t n = k + bytesBefore t n + 1 := by omega
      rw [bytesBefore_cons, hk, Nat.succ_eq_add_one, he, dropBytes?, hk, if_pos (by omega),
        show k + bytesBefore t n + 1 - k.succ = bytesBefore t n by omega, ih, List.drop_succ_cons]

lemma dropBytes_bytesBefore (t : Text) (n : ℕ) : dropBytes t (bytesBefore t n) = t.drop n := by
  simp [dropBytes, dropBytes?_bytesBefore]

lemma bytesBefore_add (t : Text) (m n : ℕ) :
    bytesBefore t (m + n) = bytesBefore t m + bytesBefore (t.drop m) n := by
  induction t generalizing m with
  | nil => simp [bytesBefore, byteLength]
  | cons c t ih =>
    cases m with
    | zero => simp
    | succ m =>
      rw [Nat.add_right_comm, bytesBefore_cons, bytesBefore_cons, ih, List.drop_succ_cons]
      omega

lemma bytesBefore_mono (t : Text) {m n : ℕ} (h : m ≤ n) : bytesBefore t m ≤ bytesBefore t n := by
  obtain ⟨k, rfl⟩ := Nat.exists_eq_add_of_le h
  rw [bytesBefore_add]
  exact Nat.le_add_right _ _

lemma bytesBefore_length (t : Text) : bytesBefore t t.length = byteLength t := by
  simp [bytesBefore]

lemma bytesBefore_min (t : Text) (n : ℕ) : bytesBefore t (min n t.length) = bytesBefore t n := by
  simp only [bytesBefore, ← List.take_eq_take_min]

lemma le_of_bytesBefore_le {t : Text} {m n : ℕ} (hm : m ≤ t.length)
    (h : bytesBefore t m ≤ bytesBefore t n) : m ≤ n := by
  by_contra hlt
  have he : bytesBefore t m = bytesBefore t n := le_antisymm h (bytesBefore_mono t (by omega))
  have hc := congrArg (charsBefore t) he
  rw [charsBefore_bytesBefore, charsBefore_bytesBefore] at hc
  omega

lemma bytesBefore_le_iff (t : Text) (m n : ℕ) :
    bytesBefore t m ≤ bytesBefore t n ↔ min m t.length ≤ min n t.length := by
  rw [← bytesBefore_min t m, ← bytesBefore_min t n]
  exact ⟨le_of_bytesBefore_le (Nat.min_le_right _ _), bytesBefore_mono t⟩

/-- The characters between two boundaries, counted on what is left after the first one. An end in
front of the start counts for nothing. -/
lemma charsBefore_drop_sub (t : Text) (m n : ℕ) :
    charsBefore (t.drop m) (bytesBefore t n - bytesBefore t m) = min n t.length - m := by
  rcases le_total m n with h | h
  · obtain ⟨k, rfl⟩ := Nat.exists_eq_add_of_le h
    rw [bytesBefore_add, Nat.add_sub_cancel_left, charsBefore_bytesBefore, List.length_drop]
    omega
  · rw [Nat.sub_eq_zero_of_le (bytesBefore_mono t h), charsBefore_zero]
    omega

lemma sliceBytes_bytesBefore (t : Text) (m n : ℕ) :
    sliceBytes t (bytesBefore t m) (bytesBefore t n) = (t.drop m).take (n - m) := by
  rw [sliceBytes, takeBytes, dropBytes_bytesBefore, charsBefore_drop_sub]
  rcases Nat.le_total n t.length with h | h
  · rw [Nat.min_eq_left h]
  · have hlen : (t.drop m).length ≤ n - m := by simp; omega
    rw [Nat.min_eq_right h, List.take_of_length_le hlen,
      List.take_of_length_le (List.length_drop).le]

end Text

namespace CharRange

/-- The characters of a byte span, each end counted from the beginning of the text. -/
def ofByteSpan (t : Text) (span : ByteSpan) : CharRange :=
  ofBounds (t.charsBefore span.start) (t.charsBefore span.stop)

open Engine.Program in
lemma ofByteSpan_toByteSpan (t : Text) (s : Engine.Span) :
    ofByteSpan t (toByteSpan t s) = ofBounds (min s.start t.length) (min s.stop t.length) := by
  simp [ofByteSpan, toByteSpan, Text.charsBefore_bytesBefore]

open Engine.Program in
lemma ofBytes?_toByteSpan (t : Text) (s : Engine.Span) :
    ofBytes? t (toByteSpan t s) = some (ofByteSpan t (toByteSpan t s)) := by
  simp only [ofBytes?, toByteSpan, Text.dropBytes?_bytesBefore, Option.map_some, Option.some.injEq,
    Text.charsBefore_drop_sub, ofByteSpan, ofBounds, Text.charsBefore_bytesBefore, mk.injEq,
    true_and]
  omega

theorem slice_eq_take_drop (r : CharRange) (t : Text) :
    r.slice t = (t.drop r.start).take (r.stop - r.start) := by
  simp only [slice, toBytes, Text.sliceBytes, Text.takeBytes, Text.dropBytes_bytesBefore,
    Nat.add_sub_cancel_left, Text.charsBefore_bytesBefore, length]
  rw [← List.take_eq_take_min]

end CharRange

namespace OffsetTracker

/-- The anchor of a tracker is a boundary of its text with the right number of characters. -/
def Anchored (k : OffsetTracker) : Prop :=
  ∃ n ≤ k.text.length, k.byte = k.text.bytesBefore n ∧ k.char = n

lemma anchored_ofText (t : Text) : (ofText t).Anchored := ⟨0, by simp, by simp [ofText], rfl⟩

lemma charAt_bytesBefore {k : OffsetTracker} (hk : k.Anchored) (n : ℕ) :
    (k.charAt (k.text.bytesBefore n)).1 = min n k.text.length ∧
      (k.charAt (k.text.bytesBefore n)).2.text = k.text ∧
      (k.charAt (k.text.bytesBefore n)).2.Anchored := by
  obtain ⟨a, ha, hb, hc⟩ := hk
  by_cases hlt : k.text.bytesBefore n < k.byte
  · simp only [charAt, if_pos hlt]
    exact ⟨Text.charsBefore_bytesBefore _ _, trivial, a, ha, hb, hc⟩
  · have hn : a ≤ n := Text.le_of_bytesBefore_le ha (by omega)
    have hchar : k.char + (k.text.dropBytes k.byte).charsBefore (k.text.bytesBefore n - k.byte) =
        min n k.text.length := by
      rw [hb, hc, Text.dropBytes_bytesBefore, Text.charsBefore_drop_sub]
      omega
    simp only [charAt, if_neg hlt, hchar]
    exact ⟨trivial, trivial, min n k.text.length, Nat.min_le_right _ _,
      (Text.bytesBefore_min _ _).symm, rfl⟩

/-- A tracker converts a span between boundaries as if each end were counted from the beginning. -/
theorem range_boundaries {k : OffsetTracker} (hk : k.Anchored) (m n : ℕ) :
    (k.range ⟨k.text.bytesBefore m, k.text.bytesBefore n⟩).1 =
        CharRange.ofByteSpan k.text ⟨k.text.bytesBefore m, k.text.bytesBefore n⟩ ∧
      (k.range ⟨k.text.bytesBefore m, k.text.bytesBefore n⟩).2.text = k.text ∧
      (k.range ⟨k.text.bytesBefore m, k.text.bytesBefore n⟩).2.Anchored := by
  obtain ⟨hstart, htext, hanchor⟩ := charAt_bytesBefore hk m
  have hstop := (charAt_bytesBefore hanchor n).1
  rw [htext] at hstop
  refine ⟨?_, htext, hanchor⟩
  simp only [range, CharRange.ofByteSpan, hstart, htext, hstop, Text.charsBefore_bytesBefore,
    ite_self]

/-- A tracker at the beginning of a text, or wherever conversions of spans have led it. -/
structure Tracks (k : OffsetTracker) (t : Text) : Prop where
  text : k.text = t
  anchored : k.Anchored

lemma tracks_ofText (t : Text) : (ofText t).Tracks t := ⟨rfl, anchored_ofText t⟩

lemma Tracks.range_eq {k : OffsetTracker} {t : Text} (hk : k.Tracks t) (s : Engine.Span) :
    (k.range (Engine.Program.toByteSpan t s)).1 =
      CharRange.ofByteSpan t (Engine.Program.toByteSpan t s) := by
  obtain ⟨rfl, hanchor⟩ := hk
  exact (range_boundaries hanchor s.start s.stop).1

lemma Tracks.range_tracks {k : OffsetTracker} {t : Text} (hk : k.Tracks t) (s : Engine.Span) :
    (k.range (Engine.Program.toByteSpan t s)).2.Tracks t := by
  obtain ⟨rfl, hanchor⟩ := hk
  exact ⟨(range_boundaries hanchor s.start s.stop).2.1, (range_boundaries hanchor s.start s.stop).2.2⟩

lemma Tracks.charAt_end {k : OffsetTracker} {t : Text} (hk : k.Tracks t) :
    (k.charAt t.byteLength).1 = t.length := by
  obtain ⟨rfl, hanchor⟩ := hk
  rw [← Text.bytesBefore_length, (charAt_bytesBefore hanchor _).1, min_self]

end OffsetTracker

end PatternAlgebra
