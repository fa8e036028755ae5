import PatternAlgebra.Proofs.Engine.Order
import PatternAlgebra.Proofs.Regex.Fragments

/-! The order of a regular expression's matches, by characters. Each ends behind those before it.
They come one behind the other unless the engine can move the start of a match to the left, as it
can in a lookbehind. -/
namespace PatternAlgebra

/-- A range that ends behind another one, or where that one ends if that one is not empty. -/
def CharRange.EndsBehind (q m : CharRange) : Prop :=
  m.stop ≤ q.stop ∧ (m.start = m.stop → m.stop < q.stop)

namespace Regex

open Engine

variable {r : Regex} {t : Text}

/-- The matches of a text come one behind the other. -/
def InOrder (r : Regex) (t : Text) : Prop :=
  ((r.occurrences t).map (·.whole)).IsChain (·.stop ≤ ·.start)

lemma whole_inText {m : Match Span} (h : m.whole.start ≤ m.whole.stop) (t : Text) :
    (inText t m).whole.start = min m.whole.start t.length ∧
      (inText t m).whole.stop = min m.whole.stop t.length := by
  have hwhole : (inText t m).whole = _ := CharRange.ofByteSpan_toByteSpan t m.whole
  rw [hwhole]
  refine ⟨rfl, ?_⟩
  simp only [CharRange.ofBounds]
  omega

lemma stop_le_of_mem_occurrences {m : Match CharRange} (hm : m ∈ r.occurrences t) :
    m.whole.stop ≤ t.length := by
  rw [occurrences_eq_inText] at hm
  obtain ⟨m, hmem, rfl⟩ := List.mem_map.mp hm
  rw [(whole_inText (r.program.start_le_stop_of_mem_searchText t m hmem) t).2]
  exact Nat.min_le_right _ _

lemma stop_le_of_mem_wholes (r : Regex) (t : Text) :
    ∀ q ∈ (r.occurrences t).map (·.whole), q.stop ≤ t.length := by
  intro q hq
  obtain ⟨m, hm, rfl⟩ := List.mem_map.mp hq
  exact stop_le_of_mem_occurrences hm

/-- What the engine says about spans in a row, by characters. -/
lemma isChain_occurrences {R : CharRange → CharRange → Prop} (t : Text)
    (h : ∀ m q : Match Span, m.whole.start ≤ m.whole.stop → q.whole.start ≤ q.whole.stop →
      r.program.Follows m q → R (inText t m).whole (inText t q).whole) :
    ((r.occurrences t).map (·.whole)).IsChain R := by
  obtain ⟨hspans, hchain, -⟩ := r.program.searchAll_follows t.toArray (t.length + 2) 0 none
  rw [occurrences_eq_inText, List.map_map, List.isChain_map]
  exact hchain.imp_of_mem_imp fun m q hm hq => h m q (hspans m hm) (hspans q hq)

/-- A regular expression that cannot move the start of a match has its matches in order. -/
theorem inOrder_of_not_canStepBack (h : r.program.canStepBack = false) (t : Text) : r.InOrder t := by
  refine isChain_occurrences t fun m q hm hq hfollows => ?_
  rw [(whole_inText hm t).2, (whole_inText hq t).1]
  have hle := hfollows.2 h
  omega

lemma isChain_not_touching (r : Regex) (t : Text) :
    ((r.occurrences t).map (·.whole)).IsChain fun m q =>
      m.stop < t.length → q.start = m.stop → m.stop < q.stop := by
  refine isChain_occurrences t fun m q hm hq hfollows hlt htouch => ?_
  rw [(whole_inText hm t).2] at hlt htouch ⊢
  rw [(whole_inText hq t).1] at htouch
  rw [(whole_inText hq t).2]
  have hempty := hfollows.1
  by_contra hle
  exact hempty (by omega) (by omega)

/-- Each match ends behind those before it, wherever it starts. -/
lemma pairwise_endsBehind (r : Regex) (t : Text) :
    ((r.occurrences t).map (·.whole)).Pairwise fun m q => q.EndsBehind m := by
  have hspans := r.program.start_le_stop_of_mem_searchText t
  have hpairs := (r.program.searchAll_advances t.toArray (t.length + 2) 0 none).2
  rw [occurrences_eq_inText, List.map_map, List.pairwise_map]
  refine hpairs.imp_of_mem fun {m q} hm hq hends => ?_
  rw [List.size_toArray] at hends
  obtain ⟨hmstart, hmstop⟩ := whole_inText (hspans m hm) t
  have hqstop := (whole_inText (hspans q hq) t).2
  simp only [Function.comp_apply, CharRange.EndsBehind, hmstart, hmstop, hqstop]
  have hle := hspans m hm
  omega

end Regex

end PatternAlgebra
