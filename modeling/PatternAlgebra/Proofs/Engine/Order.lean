import PatternAlgebra.Proofs.Engine.Marks

/-! The order of matches. A plan hands every match on to what comes behind it, from a place that is
not further left, and with the same start unless it moves that. So each match ends behind the one
before it, an empty one does not touch that, and where no start is moved the matches of a search
come one behind the other. -/
namespace PatternAlgebra.Engine

namespace Context

open Run State

/-- A plan hands every match on to a state that is further on, whose start stands still if the plan
does not move it, and whose marks are in order if the groups of the plan are numbered inwards. -/
theorem handsOn_run (ctx : Context) {still numbered : Prop} {low : ℕ} {plan : Plan}
    (hstill : still → plan.movesStart = false) (hnumbered : numbered → plan.Above low) :
    HandsOn (Onward still numbered low) (ctx.run plan) := by
  have hcourse (low : ℕ) : Course (Onward still numbered low) := course_onward still numbered low
  induction plan generalizing low with
  | done => exact handsOn_id (hcourse low)
  | set t => exact handsOn_set (hcourse low) ctx t
  | check a => exact handsOn_guard (hcourse low) fun s => ctx.holds s.pos a
  | keep =>
    intro next s choices retries s' hm
    have honward : Onward still numbered low s { s with start := s.pos } :=
      ⟨le_rfl, fun hs => Bool.noConfusion (hstill hs), fun _ _ _ => rfl, fun _ _ h => h⟩
    exact ⟨_, choices, retries, hm, honward⟩
  | unit e groups =>
    intro next s choices retries s' hm
    unfold run at hm
    split at hm
    · rename_i point hpoint
      exact ⟨_, choices, retries, hm, onward_adopt s hpoint hnumbered⟩
    · contradiction
  | seq p q ihp ihq =>
    have hparts (hs : still) := Bool.or_eq_false_iff.mp (hstill hs)
    exact (ihp (fun hs => (hparts hs).1) fun hn => (hnumbered hn).1).comp (hcourse low)
      (ihq (fun hs => (hparts hs).2) fun hn => (hnumbered hn).2)
  | alt p q ihp ihq =>
    have hparts (hs : still) := Bool.or_eq_false_iff.mp (hstill hs)
    exact (ihp (fun hs => (hparts hs).1) fun hn => (hnumbered hn).1).either
      (ihq (fun hs => (hparts hs).2) fun hn => (hnumbered hn).2)
  | group n p ih =>
    intro next s choices retries s' hm
    obtain ⟨t, choices, retries, ht, honward⟩ :=
      ih hstill (fun hn => (hnumbered hn).2) _ (s.enter n) choices retries s' hm
    exact ⟨t.leave n, choices, retries, ht, onward_group honward fun hn => (hnumbered hn).1⟩
  | zeroOrMore p greedy ih => exact (ih hstill hnumbered).anyNumber (hcourse low) greedy _
  | oneOrMore p greedy ih =>
    have hbody := ih hstill hnumbered
    exact hbody.comp (hcourse low) (hbody.anyNumber (hcourse low) greedy _)
  | moving p least greedy ih => exact (ih hstill hnumbered).moving (hcourse low) least greedy _ 0 0
  | counted p least most greedy ih =>
    exact (ih hstill hnumbered).counted (hcourse low) least most greedy _ 0
  | atomic p ih => exact (ih hstill hnumbered).atomic (hcourse low)
  | look back p ih => exact handsOn_lookBack (hcourse low) back (ih hstill hnumbered)
  | notLook back p ih => exact handsOn_notLook (hcourse low) back (ih hstill hnumbered)
  | backref n => exact handsOn_backref (hcourse low) ctx n
  | participated n => exact handsOn_guard (hcourse low) fun s => n = 0 ∨ (s.mark? n).isSome
  | conditional c p q ihc ihp ihq =>
    simp only [Plan.movesStart, Bool.or_eq_false_iff] at hstill
    have hbody := ihc (fun hs => (hstill hs).1.1) fun hn => (hnumbered hn).1
    have hthen := ihp (fun hs => (hstill hs).1.2) fun hn => (hnumbered hn).2.1
    have helse := ihq (fun hs => (hstill hs).2) fun hn => (hnumbered hn).2.2
    exact hbody.conditional (hcourse low) hthen helse

end Context

namespace Program

variable {p : Program} {start : ℕ} {m : Match Span}

lemma findRegular_found {ctx : Context} {e : Regular} {count : ℕ}
    (h : p.findRegular ctx e count start = .found m) :
    ∃ first point, start ≤ first ∧ ctx.first? e first = some point ∧
      m = p.matchOfPoint first point := by
  induction count generalizing start with
  | zero => contradiction
  | succ count ih =>
    unfold findRegular at h
    split at h
    · rename_i point hpoint
      exact ⟨start, point, le_rfl, hpoint, (Answer.found.inj h).symm⟩
    · obtain ⟨first, point, hstart, hfound⟩ := ih h
      exact ⟨first, point, Nat.le_of_succ_le hstart, hfound⟩

lemma findPlanned_found {ctx : Context} {plan : Plan} {count retries : ℕ}
    (h : p.findPlanned ctx plan count start retries = .found m) :
    ∃ first s, start ≤ first ∧ m = p.matchOfState s ∧
      State.Onward (plan.movesStart = false) (plan.Above 0) 0 { pos := first, start := first } s := by
  induction count generalizing start retries with
  | zero => contradiction
  | succ count ih =>
    unfold findPlanned at h
    split at h
    · rename_i s hrun
      obtain ⟨t, _, _, ht, honward⟩ := ctx.handsOn_run id id _ _ _ _ _ hrun
      obtain rfl := Run.matched.inj ht
      exact ⟨start, t, le_rfl, (Answer.found.inj h).symm, honward⟩
    · split_ifs at h
      obtain ⟨first, s, hstart, hfound⟩ := ih h
      exact ⟨first, s, Nat.le_of_succ_le hstart, hfound⟩
    · contradiction
    · contradiction

lemma search_found {text : Array Char} (h : p.search text start = .found m) :
    m.whole.start ≤ m.whole.stop ∧ start ≤ m.whole.stop ∧
      (p.canStepBack = false → start ≤ m.whole.start) := by
  cases hbody : p.body with
  | regular e =>
    simp only [search, hbody] at h
    obtain ⟨first, point, hstart, hpoint, rfl⟩ := findRegular_found h
    have hstop := Context.le_of_first? hpoint
    exact ⟨hstop, hstart.trans hstop, fun _ => hstart⟩
  | planned plan =>
    simp only [search, hbody] at h
    obtain ⟨first, s, hstart, rfl, honward⟩ := findPlanned_found h
    have hpos : start ≤ s.pos := hstart.trans honward.pos
    refine ⟨Nat.min_le_right _ _, hpos, fun hstill => le_min ?_ hpos⟩
    simp only [canStepBack, hbody] at hstill
    exact hstart.trans (honward.start hstill).ge

/-- There is nothing to be found behind the end of the text. -/
lemma start_le_of_search_found {text : Array Char} (h : p.search text start = .found m) :
    start ≤ text.size := by
  by_contra hlt
  have hnone : text.size + 1 - start = 0 := by omega
  cases hbody : p.body with
  | regular e => simp [search, hbody, hnone, findRegular] at h
  | planned plan => simp [search, hbody, hnone, findPlanned] at h

/-- One match behind another: it is not empty at the end of that one, and it does not begin before
that end unless starts can be moved. -/
def Follows (p : Program) (m q : Match Span) : Prop :=
  (q.whole.start = q.whole.stop → q.whole.stop ≠ m.whole.stop) ∧
    (p.canStepBack = false → m.whole.stop ≤ q.whole.start)

/-- What a search for all matches does next. It goes on behind the match that is found, at least one
character further on if the match is empty; and an empty match right behind the one before is left
out. -/
lemma searchAll_cases (p : Program) (text : Array Char) (fuel start : ℕ) (previous : Option ℕ) :
    (p.searchAll text (fuel + 1) start previous).1 = [] ∨
      ∃ m next, p.search text start = .found m ∧ m.whole.stop ≤ next ∧
        (m.whole.start = m.whole.stop → m.whole.stop < next) ∧
        ((p.searchAll text (fuel + 1) start previous).1 =
            (p.searchAll text fuel next previous).1 ∨
          ¬ (m.whole.start = m.whole.stop ∧ previous = some m.whole.stop) ∧
            (p.searchAll text (fuel + 1) start previous).1 =
              m :: (p.searchAll text fuel next (some m.whole.stop)).1) := by
  rw [searchAll]
  cases p.search text start with
  | missing => exact Or.inl rfl
  | broken => exact Or.inl rfl
  | found m =>
    refine Or.inr ⟨m, if m.whole.start = m.whole.stop then m.whole.stop + 1 else m.whole.stop, rfl,
      ?_, ?_, ?_⟩
    · split_ifs <;> omega
    · intro hempty
      rw [if_pos hempty]
      exact Nat.lt_succ_self _
    · by_cases hskip : m.whole.start = m.whole.stop ∧ previous = some m.whole.stop
      · exact Or.inl (by simp only [if_pos hskip])
      · exact Or.inr ⟨hskip, by simp only [if_neg hskip]⟩

/-- Each match follows the one before it, the first one what came before the search. -/
theorem searchAll_follows (p : Program) (text : Array Char) (fuel start : ℕ)
    (previous : Option ℕ) :
    (∀ m ∈ (p.searchAll text fuel start previous).1, m.whole.start ≤ m.whole.stop) ∧
      (p.searchAll text fuel start previous).1.IsChain p.Follows ∧
      ∀ m ∈ (p.searchAll text fuel start previous).1.head?,
        (m.whole.start = m.whole.stop → previous ≠ some m.whole.stop) ∧
          (p.canStepBack = false → start ≤ m.whole.start) := by
  induction fuel generalizing start previous with
  | zero => simp [searchAll]
  | succ fuel ih =>
    rcases p.searchAll_cases text fuel start previous with
      hnil | ⟨m, next, hsearch, hnext, -, hskip | ⟨hkept, hcons⟩⟩
    · simp [hnil]
    · obtain ⟨hstop, -, hstart⟩ := search_found hsearch
      obtain ⟨hmem, hchain, hhead⟩ := ih next previous
      rw [hskip]
      refine ⟨hmem, hchain, fun q hq => ⟨(hhead q hq).1, fun hback => ?_⟩⟩
      exact (hstart hback).trans (hstop.trans (hnext.trans ((hhead q hq).2 hback)))
    · obtain ⟨hstop, -, hstart⟩ := search_found hsearch
      obtain ⟨hmem, hchain, hhead⟩ := ih next (some m.whole.stop)
      rw [hcons]
      refine ⟨List.forall_mem_cons.mpr ⟨hstop, hmem⟩, List.isChain_cons.mpr ⟨?_, hchain⟩, ?_⟩
      · refine fun q hq => ⟨fun he hs => (hhead q hq).1 he (congrArg some hs.symm), fun hback => ?_⟩
        exact hnext.trans ((hhead q hq).2 hback)
      · intro q hq
        obtain rfl := Option.some.inj hq
        exact ⟨fun he hs => hkept ⟨he, hs⟩, hstart⟩

lemma start_le_stop_of_mem_searchText (p : Program) (t : Text) :
    ∀ m ∈ (p.searchText t).1, m.whole.start ≤ m.whole.stop :=
  (p.searchAll_follows t.toArray (t.length + 2) 0 none).1

/-- Later matches end behind earlier ones, also where starts are moved. -/
theorem searchAll_advances (p : Program) (text : Array Char) (fuel start : ℕ)
    (previous : Option ℕ) :
    (∀ m ∈ (p.searchAll text fuel start previous).1, start ≤ min m.whole.stop text.size) ∧
      (p.searchAll text fuel start previous).1.Pairwise fun m q =>
        m.whole.stop ≤ min q.whole.stop text.size ∧
          (m.whole.start = m.whole.stop → m.whole.stop < min q.whole.stop text.size) := by
  induction fuel generalizing start previous with
  | zero => simp [searchAll]
  | succ fuel ih =>
    rcases p.searchAll_cases text fuel start previous with
      hnil | ⟨m, next, hsearch, hnext, hempty, hskip | ⟨-, hcons⟩⟩
    · simp [hnil]
    · have hend := (search_found hsearch).2.1
      obtain ⟨hmem, hpairs⟩ := ih next previous
      rw [hskip]
      exact ⟨fun q hq => (hend.trans hnext).trans (hmem q hq), hpairs⟩
    · have hend := (search_found hsearch).2.1
      have hsize := start_le_of_search_found hsearch
      obtain ⟨hmem, hpairs⟩ := ih next (some m.whole.stop)
      rw [hcons]
      refine ⟨List.forall_mem_cons.mpr ⟨le_min hend hsize, fun q hq => ?_⟩,
        List.pairwise_cons.mpr ⟨fun q hq => ?_, hpairs⟩⟩
      · exact (hend.trans hnext).trans (hmem q hq)
      · exact ⟨hnext.trans (hmem q hq), fun he => (hempty he).trans_le (hmem q hq)⟩

/-! ### The spans of groups -/

/-- The groups of a match are those of some numbers. -/
lemma exists_of_group? {whole : Span} {ks : List ℕ} {f : ℕ → Option Span} {n : ℕ} {span : Span}
    (h : Match.group? ⟨whole, ks.map f⟩ (n + 1) = some span) : ∃ k, f k = some span := by
  obtain hspan := Option.join_eq_some_iff.mp h
  rw [List.getElem?_map, Option.map_eq_some_iff] at hspan
  obtain ⟨k, -, hk⟩ := hspan
  exact ⟨k, hk⟩

lemma span_le_of_search_found (hp : p.Numbered) {text : Array Char}
    (h : p.search text start = .found m) (n : ℕ) (span : Span) (hspan : m.group? n = some span) :
    span.start ≤ span.stop := by
  cases n with
  | zero =>
    obtain rfl := Option.some.inj hspan
    exact (search_found h).1
  | succ n =>
    cases hbody : p.body with
    | regular e =>
      simp only [search, hbody] at h
      obtain ⟨first, point, -, hpoint, rfl⟩ := findRegular_found h
      obtain ⟨k, hk⟩ := exists_of_group? hspan
      exact (Context.ordered_of_first? hpoint).span_le hk
    | planned plan =>
      simp only [search, hbody] at h
      obtain ⟨first, s, -, rfl, honward⟩ := findPlanned_found h
      obtain ⟨k, hk⟩ := exists_of_group? hspan
      refine honward.forward (hp plan hbody) k (fun span hspan => ?_) span hk
      simp [State.group?, State.mark?] at hspan

lemma exists_search_of_mem {text : Array Char} {fuel : ℕ} {previous : Option ℕ}
    (hm : m ∈ (p.searchAll text fuel start previous).1) : ∃ first, p.search text first = .found m := by
  induction fuel generalizing start previous with
  | zero => simp [searchAll] at hm
  | succ fuel ih =>
    rcases p.searchAll_cases text fuel start previous with
      hnil | ⟨q, next, hsearch, -, -, hskip | ⟨-, hcons⟩⟩
    · simp [hnil] at hm
    · exact ih (hskip ▸ hm)
    · rw [hcons] at hm
      rcases List.mem_cons.mp hm with rfl | hm
      · exact ⟨start, hsearch⟩
      · exact ih hm

/-- Every group of a match was left where it was entered or behind. -/
theorem span_le_of_mem_searchText (hp : p.Numbered) {t : Text} (hm : m ∈ (p.searchText t).1) (n : ℕ)
    (span : Span) (hspan : m.group? n = some span) : span.start ≤ span.stop := by
  obtain ⟨first, hsearch⟩ := exists_search_of_mem hm
  exact span_le_of_search_found hp hsearch n span hspan

end Program

end PatternAlgebra.Engine
