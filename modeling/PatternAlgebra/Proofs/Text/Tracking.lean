import PatternAlgebra.Proofs.Text.Boundaries

/-! A tracker under calls in any order. Whatever it was asked before, its anchor is a boundary of
the text with the right number of characters, and from such an anchor each conversion of boundaries
is exact. So no answer depends on the calls in front of it. -/
namespace PatternAlgebra.OffsetTracker

variable {k : OffsetTracker} {t : Text} {b n : ℕ}

/-- What a tracker is asked for: the position of a byte offset, or the range of a span. -/
inductive Call where
  | position (byte : ℕ)
  | range (span : ByteSpan)
  deriving DecidableEq, Repr

/-- What it answers. -/
inductive Answer where
  | position (n : ℕ)
  | range (r : CharRange)
  deriving DecidableEq, Repr

/-- The answer to one call, and the tracker behind it. -/
def call (k : OffsetTracker) : Call → Answer × OffsetTracker
  | .position byte => (k.charAt byte).map .position id
  | .range span => (k.range span).map .range id

/-- The answers to calls one after another, and the tracker behind the last one. -/
def run : OffsetTracker → List Call → List Answer × OffsetTracker
  | k, [] => ([], k)
  | k, c :: cs => ((k.call c).1 :: ((k.call c).2.run cs).1, ((k.call c).2.run cs).2)

/-- The offsets of a call are boundaries of the text, and those of a span are in order. -/
def Call.Within (t : Text) : Call → Prop
  | position byte => t.IsBoundary byte
  | range span => span.start ≤ span.stop ∧ t.IsBoundary span.start ∧ t.IsBoundary span.stop

/-- The exact answer counts the characters in front of each offset. -/
inductive Exact (t : Text) : Call → Answer → Prop
  | position {byte n : ℕ} (h : t.BoundaryAt byte n) : Exact t (.position byte) (.position n)
  | range {span : ByteSpan} {r : CharRange} (h : span.Covers t r) : Exact t (.range span) (.range r)

lemma Tracks.anchor (hk : k.Tracks t) : t.BoundaryAt k.byte k.char := by
  obtain ⟨rfl, n, hn, hbyte, rfl⟩ := hk
  exact Text.boundaryAt_iff.mpr ⟨hn, hbyte.symm⟩

lemma Tracks.charAt_exact (hk : k.Tracks t) (h : t.IsBoundary b) :
    t.BoundaryAt b (k.charAt b).1 ∧ (k.charAt b).2.Tracks t := by
  obtain ⟨n, hn⟩ := Text.isBoundary_iff.mp h
  obtain ⟨hle, rfl⟩ := Text.boundaryAt_iff.mp hn
  obtain ⟨rfl, hanchor⟩ := hk
  obtain ⟨hvalue, htext, hanchor⟩ := charAt_bytesBefore hanchor n
  rw [hvalue, Nat.min_eq_left hle]
  exact ⟨hn, htext, hanchor⟩

/-- A span converts exactly wherever the anchor stands: in front of it, inside it or behind it. -/
lemma Tracks.range_exact {span : ByteSpan} {r : CharRange} (hk : k.Tracks t)
    (h : span.Covers t r) : (k.range span).1 = r ∧ (k.range span).2.Tracks t := by
  obtain ⟨start, stop⟩ := span
  obtain ⟨hstart, rfl⟩ := Text.boundaryAt_iff.mp h.start
  obtain ⟨hstop, rfl⟩ := Text.boundaryAt_iff.mp h.stop
  obtain ⟨rfl, hanchor⟩ := hk
  obtain ⟨hvalue, htext, hanchor⟩ := range_boundaries hanchor r.start r.stop
  refine ⟨hvalue.trans ?_, htext, hanchor⟩
  rw [CharRange.ofByteSpan, Text.charsBefore_bytesBefore, Text.charsBefore_bytesBefore,
    Nat.min_eq_left hstart, Nat.min_eq_left hstop]
  simp [CharRange.ofBounds, r.start_le_stop]

/-- One call is answered exactly, and leaves the tracker with the right anchor. -/
lemma Tracks.call_exact {c : Call} (hk : k.Tracks t) (hc : c.Within t) :
    Exact t c (k.call c).1 ∧ (k.call c).2.Tracks t := by
  cases c with
  | position byte =>
    obtain ⟨hvalue, htracks⟩ := hk.charAt_exact hc
    exact ⟨.position hvalue, htracks⟩
  | range span =>
    obtain ⟨hle, hstart, hstop⟩ := hc
    obtain ⟨r, hr⟩ := ByteSpan.exists_covers hle hstart hstop
    obtain ⟨hvalue, htracks⟩ := hk.range_exact hr
    have hcovers : span.Covers t (k.range span).1 := by rwa [hvalue]
    exact ⟨.range hcovers, htracks⟩

lemma Tracks.run_exact {cs : List Call} (hk : k.Tracks t) (hcs : ∀ c ∈ cs, c.Within t) :
    List.Forall₂ (Exact t) cs (k.run cs).1 ∧ (k.run cs).2.Tracks t := by
  induction cs generalizing k with
  | nil => exact ⟨.nil, hk⟩
  | cons c cs ih =>
    obtain ⟨hc, hcs⟩ := List.forall_mem_cons.mp hcs
    obtain ⟨hexact, hnext⟩ := hk.call_exact hc
    obtain ⟨hrest, hlast⟩ := ih hnext hcs
    exact ⟨.cons hexact hrest, hlast⟩

/-- From the beginning of a text, calls in any order are all answered exactly. Behind each of them
the anchor counts the characters in front of its byte, and the text can be cut there. -/
theorem calls_answered_exactly (t : Text) (cs : List Call) (hcs : ∀ c ∈ cs, c.Within t) :
    List.Forall₂ (Exact t) cs ((ofText t).run cs).1 ∧
      ∀ done, done <+: cs →
        let k := ((ofText t).run done).2
        k.text = t ∧ t.BoundaryAt k.byte k.char ∧ t.dropBytes? k.byte = some (t.drop k.char) := by
  have hstart := tracks_ofText t
  refine ⟨(hstart.run_exact hcs).1, fun done hdone => ?_⟩
  have htracks := (hstart.run_exact fun c hc => hcs c (hdone.subset hc)).2
  exact ⟨htracks.text, htracks.anchor, htracks.anchor.dropBytes?_eq⟩

/-- A span, one inside it, one that begins in front of the anchor and ends behind it, the end of the
text, an offset far back, and the whole text. -/
theorem calls_answered_exactly_backwards :
    let t := "ää-abbc".toList
    let cs : List Call := [.range ⟨5, 9⟩, .range ⟨6, 8⟩, .range ⟨4, 7⟩, .position 9, .position 2,
      .range ⟨0, 9⟩]
    (∀ c ∈ cs, c.Within t) ∧
      List.Forall₂ (Exact t) cs [.range (.ofBounds 3 7), .range (.ofBounds 4 6),
        .range (.ofBounds 2 5), .position 7, .position 1, .range (.ofBounds 0 7)] ∧
      ((ofText t).run cs).2 = ⟨t, 9, 7⟩ ∧ Text.BoundaryAt t 9 7 := by
  intro t cs
  have hat (n : ℕ) : Text.IsBoundary t (Text.bytesBefore t n) :=
    Text.isBoundary_iff.mpr ⟨_, Text.boundaryAt_bytesBefore t n⟩
  have hwithin : ∀ c ∈ cs, c.Within t := by
    simp only [cs, List.forall_mem_cons, Call.Within]
    exact ⟨⟨by decide, hat 3, hat 7⟩, ⟨by decide, hat 4, hat 6⟩, ⟨by decide, hat 2, hat 5⟩, hat 7,
      hat 1, ⟨by decide, hat 0, hat 7⟩, List.forall_mem_nil _⟩
  have hanswers : (ofText t).run cs = ([.range (.ofBounds 3 7), .range (.ofBounds 4 6),
      .range (.ofBounds 2 5), .position 7, .position 1, .range (.ofBounds 0 7)], ⟨t, 9, 7⟩) := by
    decide
  obtain ⟨hexact, hanchor⟩ := calls_answered_exactly t cs hwithin
  have hlast := (hanchor cs List.prefix_rfl).2.1
  rw [hanswers] at hexact hlast
  exact ⟨hwithin, hexact, congrArg Prod.snd hanswers, hlast⟩

end PatternAlgebra.OffsetTracker
