import PatternAlgebra.Proofs.Matcher.Breakage
import PatternAlgebra.Proofs.Matcher.Fragments

/-! Stopping. A visitor that has had enough is shown nothing more, by any matcher and under any
selection: what it is shown is the beginning of the stream of a visitor that never stops, up to the
fragment at which it stops. An inversion relays the answer to a source that stops as well. -/
namespace PatternAlgebra.Matcher

variable {σ : Type}

/-- A visitor that never stops is shown all of the stream. -/
lemma recorded_of_neverStops (m : Matcher) (t : Text) (selection : Selection) {visit : Visitor σ}
    (hv : ∀ f s, (visit f s).2 = true) (s : σ) :
    (m.iterate t selection visit.recording (s, [])).2.2 = m.ranges t selection := by
  have hrecording : ∀ f s, (visit.recording f s).2 = true := fun f s => hv f s.1
  rw [iterate_eq_run, Visitor.run_of_neverStops hrecording]
  exact congrArg Prod.snd (visit.after_recording (m.ranges t selection) [] s)

/-- A visitor that answers `false` at fragment number `j`, and `true` before, is shown the first `j`
fragments of those that visitors without end are shown, and nothing after that answer. What it is
shown is not broken off if no search in the target is. -/
theorem iterate_stops_with_visitor (m : Matcher) (t : Text) (selection : Selection) (visit : Visitor σ)
    (s : σ) {j : ℕ} (hj : 1 ≤ j) (h : visit.StopsAt j (m.ranges t selection) s) :
    let all := m.ranges t selection
    (∀ {τ : Type} (endless : Visitor τ) (u : τ), (∀ f u, (endless f u).2 = true) →
        (m.iterate t selection endless.recording (u, [])).2.2 = all) ∧
      (m.iterate t selection visit.recording (s, [])).2 =
        ((m.iterate t selection visit s).2, all.take j) ∧
      (m.iterate t selection visit s).2 = visit.after (all.take j) s ∧
      (all.take j).length = min j all.length ∧
      (Steady t m → m.iterateBreaks t selection visit s = false) := by
  intro all
  obtain ⟨k, rfl⟩ := Nat.exists_eq_add_of_le' hj
  have hstate : (m.iterate t selection visit s).2 = visit.after (all.take (k + 1)) s := by
    rw [iterate_eq_run, Visitor.run_of_stopsAt h]
  refine ⟨fun endless u hv => recorded_of_neverStops m t selection hv u, ?_, hstate,
    List.length_take, fun hsteady => hsteady.iterateBreaks selection visit s⟩
  rw [hstate, iterate_eq_run, Visitor.run_of_stopsAt (h.recording []), Visitor.after_recording,
    List.nil_append]

/-- In `aba` the gaps around `b` are three fragments of its inversion, of which a visitor that stops
at the second is shown two. -/
theorem iterate_stops_with_visitor_letter :
    let m := inversion (regex (.letter 'b'))
    let visit := Visitor.collectUpTo (some 2)
    m.ranges ['a', 'b', 'a'] .shallow =
        [.matched (.ofBounds 0 1), .unmatched (.ofBounds 1 2), .matched (.ofBounds 2 3)] ∧
      visit.StopsAt 2 (m.ranges ['a', 'b', 'a'] .shallow) [] ∧
      (m.iterate ['a', 'b', 'a'] .shallow visit.recording ([], [])).2.2 =
        [.matched (.ofBounds 0 1), .unmatched (.ofBounds 1 2)] ∧
      m.iterateBreaks ['a', 'b', 'a'] .shallow visit [] = false := by
  intro m visit
  have hall : m.ranges ['a', 'b', 'a'] .shallow =
      [.matched (.ofBounds 0 1), .unmatched (.ofBounds 1 2), .matched (.ofBounds 2 3)] := by
    decide +kernel
  have hstops : visit.StopsAt 2 (m.ranges ['a', 'b', 'a'] .shallow) [] := by
    intro i f _ hi
    have hcases : i = 0 ∨ i = 1 := by omega
    rcases hcases with rfl | rfl
    · rfl
    · rw [hall]
      rfl
  have hsteady : Steady ['a', 'b', 'a'] m := .inversion fun u _ => .of_not_canBreak rfl u
  obtain ⟨-, hseen, -, -, hreturns⟩ :=
    iterate_stops_with_visitor m ['a', 'b', 'a'] .shallow visit [] (by decide) hstops
  refine ⟨hall, hstops, ?_, hreturns hsteady⟩
  rw [hseen, hall]
  rfl

end PatternAlgebra.Matcher
