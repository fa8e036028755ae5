import PatternAlgebra.Proofs.Text.Offsets

/-! Boundaries between characters. A valid position in the UTF-8 form of a text splits the text, and
then the number of characters in front of it is determined. At boundaries the two ways to count are
inverse to each other: ranges of characters go to spans of bytes and come back clamped to the text,
and spans between boundaries come back as they are. -/
namespace PatternAlgebra

variable {t : Text} {b c m n : ℕ}

namespace Text

lemma byteLength_eq_utf8ByteSize (t : Text) : byteLength t = (String.ofList t).utf8ByteSize := by
  rw [String.utf8ByteSize_ofList]
  induction t with
  | nil => rfl
  | cons c t ih => rw [byteLength, ih, String.utf8Len_cons, Nat.add_comm]

/-- Conversion counts the characters that end at or before byte `b`, wherever it is. -/
theorem charsBefore_eq_countP (t : Text) (b : ℕ) :
    t.charsBefore b = (List.range t.length).countP fun i => t.bytesBefore (i + 1) ≤ b := by
  induction t generalizing b with
  | nil => rfl
  | cons c t ih =>
    have hlater : ∀ i, bytesBefore (c :: t) (i + 1 + 1) ≤ b ↔
        c.utf8Size ≤ b ∧ bytesBefore t (i + 1) ≤ b - c.utf8Size := by
      intro i
      rw [bytesBefore_cons]
      omega
    have hfirst : bytesBefore (c :: t) (0 + 1) = c.utf8Size := by
      rw [bytesBefore_cons, bytesBefore_zero, Nat.add_zero]
    rw [charsBefore, List.length_cons, List.range_succ_eq_map, List.countP_cons, List.countP_map,
      hfirst]
    by_cases hfits : c.utf8Size ≤ b <;> simp [Function.comp_def, hlater, hfits, ih]

/-- Byte `b` stands behind the first `n` characters and in front of the others. -/
def BoundaryAt (t : Text) (b n : ℕ) : Prop :=
  ∃ front rest, front ++ rest = t ∧ byteLength front = b ∧ front.length = n

/-- A boundary is a valid position in the UTF-8 form of the text. -/
def IsBoundary (t : Text) (b : ℕ) : Prop := String.Pos.Raw.IsValid (String.ofList t) ⟨b⟩

lemma boundaryAt_iff : t.BoundaryAt b n ↔ n ≤ t.length ∧ t.bytesBefore n = b := by
  constructor
  · rintro ⟨front, rest, rfl, rfl, rfl⟩
    simp [bytesBefore]
  · rintro ⟨hn, rfl⟩
    exact ⟨t.take n, t.drop n, List.take_append_drop n t, rfl, List.length_take_of_le hn⟩

lemma boundaryAt_bytesBefore (t : Text) (n : ℕ) :
    t.BoundaryAt (t.bytesBefore n) (min n t.length) :=
  boundaryAt_iff.mpr ⟨Nat.min_le_right _ _, bytesBefore_min t n⟩

lemma isBoundary_iff : t.IsBoundary b ↔ ∃ n, t.BoundaryAt b n := by
  rw [IsBoundary, String.Pos.Raw.isValid_iff_exists_take_toList, String.toList_ofList]
  constructor
  · rintro ⟨n, h⟩
    rw [← byteLength_eq_utf8ByteSize] at h
    subst h
    exact ⟨min n t.length, boundaryAt_bytesBefore t n⟩
  · rintro ⟨n, h⟩
    obtain ⟨-, rfl⟩ := boundaryAt_iff.mp h
    exact ⟨n, byteLength_eq_utf8ByteSize _⟩

lemma BoundaryAt.le_of_le (hm : t.BoundaryAt b m) (hn : t.BoundaryAt c n) (h : b ≤ c) : m ≤ n := by
  obtain ⟨hmt, rfl⟩ := boundaryAt_iff.mp hm
  obtain ⟨-, rfl⟩ := boundaryAt_iff.mp hn
  exact le_of_bytesBefore_le hmt h

/-- There is only one number of characters in front of a boundary. -/
lemma BoundaryAt.unique (hm : t.BoundaryAt b m) (hn : t.BoundaryAt b n) : m = n :=
  le_antisymm (hm.le_of_le hn le_rfl) (hn.le_of_le hm le_rfl)

/-- At a boundary the text can be cut. -/
lemma BoundaryAt.dropBytes?_eq (h : t.BoundaryAt b n) : t.dropBytes? b = some (t.drop n) := by
  obtain ⟨-, rfl⟩ := boundaryAt_iff.mp h
  exact dropBytes?_bytesBefore t n

end Text

/-- A span of bytes covers a range of characters if its ends are boundaries and the range counts the
characters in front of them. -/
structure ByteSpan.Covers (t : Text) (span : ByteSpan) (r : CharRange) : Prop where
  start : t.BoundaryAt span.start r.start
  stop : t.BoundaryAt span.stop r.stop

/-- A span with its ends at boundaries covers some range. -/
lemma ByteSpan.exists_covers {span : ByteSpan} (hle : span.start ≤ span.stop)
    (hstart : t.IsBoundary span.start) (hstop : t.IsBoundary span.stop) :
    ∃ r : CharRange, span.Covers t r := by
  obtain ⟨m, hm⟩ := Text.isBoundary_iff.mp hstart
  obtain ⟨n, hn⟩ := Text.isBoundary_iff.mp hstop
  exact ⟨⟨m, n, hm.le_of_le hn hle⟩, hm, hn⟩

namespace CharRange

variable {r : CharRange} {span : ByteSpan}

/-- The part of a range within the first `n` positions. -/
def clamp (r : CharRange) (n : ℕ) : CharRange :=
  ⟨min r.start n, min r.stop n, min_le_min_right n r.start_le_stop⟩

lemma toBytes_eq (r : CharRange) (t : Text) :
    r.toBytes t = ⟨t.bytesBefore r.start, t.bytesBefore r.stop⟩ := by
  have hlength : r.start + r.length = r.stop := Nat.add_sub_cancel' r.start_le_stop
  rw [toBytes, Text.dropBytes_bytesBefore, ← Text.bytesBefore_add, hlength]

lemma toBytes_covers (r : CharRange) (t : Text) : (r.toBytes t).Covers t (r.clamp t.length) := by
  rw [toBytes_eq]
  exact ⟨Text.boundaryAt_bytesBefore t r.start, Text.boundaryAt_bytesBefore t r.stop⟩

lemma toBytes_of_covers (h : span.Covers t r) : r.toBytes t = span := by
  obtain ⟨-, hstart⟩ := Text.boundaryAt_iff.mp h.start
  obtain ⟨-, hstop⟩ := Text.boundaryAt_iff.mp h.stop
  rw [toBytes_eq, hstart, hstop]

/-- The end of a span is counted on what is left behind its start, which comes to the same. -/
lemma ofBytes?_of_covers (h : span.Covers t r) : ofBytes? t span = some r := by
  obtain ⟨hm, hstart⟩ := Text.boundaryAt_iff.mp h.start
  obtain ⟨hn, hstop⟩ := Text.boundaryAt_iff.mp h.stop
  have hfront : t.charsBefore span.start = r.start := by
    rw [← hstart, Text.charsBefore_bytesBefore, Nat.min_eq_left hm]
  have hrest : Text.charsBefore (t.drop r.start) (span.stop - span.start) = r.stop - r.start := by
    rw [← hstart, ← hstop, Text.charsBefore_drop_sub, Nat.min_eq_left hn]
  simp only [ofBytes?, h.start.dropBytes?_eq, Option.map_some, hfront, hrest,
    Nat.add_sub_cancel' r.start_le_stop]

lemma slice_eq_extract (r : CharRange) (t : Text) :
    r.slice t = t.extract (r.clamp t.length).start (r.clamp t.length).stop := by
  have hcut : r.slice t = t.sliceBytes (t.bytesBefore (r.clamp t.length).start)
      (t.bytesBefore (r.clamp t.length).stop) := by
    rw [slice, toBytes_eq, clamp, Text.bytesBefore_min, Text.bytesBefore_min]
  rw [hcut, Text.sliceBytes_bytesBefore, List.extract_eq_take_drop]

/-- Slices and conversions clamp a range to the text, both ends alike, and the bytes of a range go
back to it. A span of bytes between boundaries always converts, to the range that it covers, and
the range goes back to it. -/
theorem ranges_inverse_to_spans (t : Text) :
    (∀ r : CharRange,
      r.slice t = t.extract (min r.start t.length) (min r.stop t.length) ∧
      (r.toBytes t).Covers t (r.clamp t.length) ∧
      ofBytes? t (r.toBytes t) = some (r.clamp t.length)) ∧
    ∀ span : ByteSpan, span.start ≤ span.stop → t.IsBoundary span.start → t.IsBoundary span.stop →
      ∃ r : CharRange, ofBytes? t span = some r ∧ span.Covers t r ∧ r.toBytes t = span := by
  refine ⟨fun r => ⟨slice_eq_extract r t, toBytes_covers r t, ?_⟩, fun span hle hstart hstop => ?_⟩
  · exact ofBytes?_of_covers (toBytes_covers r t)
  · obtain ⟨r, hr⟩ := ByteSpan.exists_covers hle hstart hstop
    exact ⟨r, ofBytes?_of_covers hr, hr, toBytes_of_covers hr⟩

/-- Characters of one to four bytes. Bytes 1 to 6 are those of the second and the third one. -/
theorem ranges_inverse_to_spans_widths :
    let t := "aé€😀".toList
    Text.IsBoundary t 1 ∧ Text.IsBoundary t 6 ∧
      (∃ r : CharRange, ofBytes? t ⟨1, 6⟩ = some r ∧ r.start = 1 ∧ r.stop = 3 ∧
        r.toBytes t = ⟨1, 6⟩ ∧ r.slice t = "é€".toList) ∧
      ofBytes? t ((ofBounds 2 9).toBytes t) = some (ofBounds 2 4) := by
  intro t
  have hone : Text.BoundaryAt t 1 1 := Text.boundaryAt_iff.mpr (by decide)
  have hthree : Text.BoundaryAt t 6 3 := Text.boundaryAt_iff.mpr (by decide)
  have hstart : Text.IsBoundary t 1 := Text.isBoundary_iff.mpr ⟨1, hone⟩
  have hstop : Text.IsBoundary t 6 := Text.isBoundary_iff.mpr ⟨3, hthree⟩
  obtain ⟨hranges, hspans⟩ := ranges_inverse_to_spans t
  obtain ⟨r, hbytes, hcovers, hback⟩ := hspans ⟨1, 6⟩ (by decide) hstart hstop
  have hfirst : r.start = 1 := hcovers.start.unique hone
  have hlast : r.stop = 3 := hcovers.stop.unique hthree
  refine ⟨hstart, hstop, ⟨r, hbytes, hfirst, hlast, hback, ?_⟩, (hranges (ofBounds 2 9)).2.2⟩
  rw [(hranges r).1, hfirst, hlast]
  rfl

end CharRange

end PatternAlgebra
