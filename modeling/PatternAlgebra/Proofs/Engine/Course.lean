import PatternAlgebra.Engine.Search
import PatternAlgebra.Proofs.Engine.Forward

/-! The course of a run. A part of a plan matches only by what comes behind it, which begins with a
state that has come about from that of the part. What such states have in common is a relation that
holds along the way through the part, and that looking around does not break. -/
namespace PatternAlgebra.Engine

/-- A relation between a state and the later ones of a run. -/
structure Course (R : State → State → Prop) : Prop where
  refl : ∀ s, R s s
  trans : ∀ {s t u}, R s t → R t u → R s u
  kept : ∀ s kept, R s { s with kept }
  moved : ∀ s pos, s.pos ≤ pos → R s { s with pos }
  /-- Where a lookaround has begun at another position, the run goes on from where it was. -/
  around : ∀ s t pos, R { s with pos } t → R s { t with pos := s.pos }

namespace Run

/-- A part of a plan matches only by what comes behind it. -/
def HandsOn (R : State → State → Prop) (step : Next → Next) : Prop :=
  ∀ next s choices retries s', step next s choices retries = .matched s' →
    ∃ t choices retries, next t choices retries = .matched s' ∧ R s t

variable {R : State → State → Prop}

lemma handsOn_id (hR : Course R) : HandsOn R fun next => next :=
  fun _ s choices retries _ h => ⟨s, choices, retries, h, hR.refl s⟩

lemma HandsOn.comp (hR : Course R) {first rest : Next → Next} (hfirst : HandsOn R first)
    (hrest : HandsOn R rest) : HandsOn R fun next => first (rest next) := by
  intro next s choices retries s' h
  obtain ⟨t, choices, retries, ht, hst⟩ := hfirst _ _ _ _ _ h
  obtain ⟨u, choices, retries, hu, htu⟩ := hrest _ _ _ _ _ ht
  exact ⟨u, choices, retries, hu, hR.trans hst htu⟩

lemma matched_of_either {first second : Next} {s s' : State} {choices retries : ℕ}
    (h : either first second s choices retries = .matched s') :
    (∃ choices retries, first s choices retries = .matched s') ∨
      ∃ choices retries, second s choices retries = .matched s' := by
  unfold either at h
  split at h
  · split at h
    · split_ifs at h
      exact Or.inr ⟨_, _, h⟩
    · exact Or.inl ⟨_, _, h⟩
  · cases h

lemma HandsOn.either {first second : Next → Next} (hfirst : HandsOn R first)
    (hsecond : HandsOn R second) : HandsOn R fun next => Run.either (first next) (second next) := by
  intro next s choices retries s' h
  rcases matched_of_either h with ⟨_, _, h⟩ | ⟨_, _, h⟩
  · exact hfirst _ _ _ _ _ h
  · exact hsecond _ _ _ _ _ h

lemma HandsOn.prefer {first second : Next → Next} (greedy : Bool) (hfirst : HandsOn R first)
    (hsecond : HandsOn R second) :
    HandsOn R fun next => Run.prefer greedy (first next) (second next) := by
  cases greedy with
  | false => exact hsecond.either hfirst
  | true => exact hfirst.either hsecond

lemma HandsOn.anyNumber (hR : Course R) {step : Next → Next} (hstep : HandsOn R step)
    (greedy : Bool) (fuel : ℕ) : HandsOn R fun next => anyNumber step greedy next fuel := by
  induction fuel with
  | zero => exact fun _ _ _ _ _ h => nomatch h
  | succ fuel ih => exact (hstep.comp hR ih).prefer greedy (handsOn_id hR)

lemma HandsOn.moving (hR : Course R) {step : Next → Next} (hstep : HandsOn R step) (least : ℕ)
    (greedy : Bool) (fuel count previous : ℕ) :
    HandsOn R fun next => moving step least greedy next fuel count previous := by
  induction fuel generalizing count previous with
  | zero => exact fun _ _ _ _ _ h => nomatch h
  | succ fuel ih =>
    intro next s choices retries s' h
    simp only [Run.moving] at h
    split_ifs at h
    · exact hstep.comp hR (ih (count + 1) previous) _ _ _ _ _ h
    · exact (hstep.comp hR (ih (count + 1) s.pos)).prefer greedy (handsOn_id hR) _ _ _ _ _ h

lemma HandsOn.counted (hR : Course R) {step : Next → Next} (hstep : HandsOn R step) (least : ℕ)
    (most : Option ℕ) (greedy : Bool) (fuel count : ℕ) :
    HandsOn R fun next => counted step least most greedy next fuel count := by
  induction fuel generalizing count with
  | zero => exact fun _ _ _ _ _ h => nomatch h
  | succ fuel ih =>
    intro next s choices retries s' h
    simp only [Run.counted] at h
    split_ifs at h
    · exact handsOn_id hR _ _ _ _ _ h
    · exact hstep.comp hR (ih (count + 1)) _ _ _ _ _ h
    · exact (hstep.comp hR (ih (count + 1))).prefer greedy (handsOn_id hR) _ _ _ _ _ h

/-- Fuel for more iterations than the upper bound leaves changes nothing. -/
lemma counted_succ_fuel (step : Next → Next) (least : ℕ) {most : ℕ} (greedy : Bool) (next : Next)
    {fuel count : ℕ} (hcount : count ≤ most) (hfuel : most < count + fuel) :
    Run.counted step least (some most) greedy next (fuel + 1) count =
      Run.counted step least (some most) greedy next fuel count := by
  induction fuel generalizing count with
  | zero => omega
  | succ fuel ih =>
    funext s choices retries
    rw [Run.counted, Run.counted]
    by_cases hlast : some most = some count
    · rw [if_pos hlast, if_pos hlast]
    · have hne : most ≠ count := fun h => hlast (congrArg some h)
      rw [if_neg hlast, if_neg hlast, ih (by omega) (by omega)]

lemma handsOn_guard (hR : Course R) (p : State → Prop) [DecidablePred p] :
    HandsOn R fun next s choices retries =>
      if p s then next s choices retries else failed choices retries := by
  intro next s choices retries s' h
  simp only at h
  split_ifs at h
  exact ⟨s, choices, retries, h, hR.refl s⟩

lemma handsOn_enter (hR : Course R) : HandsOn R enter :=
  fun _ s choices retries _ h => ⟨_, choices, retries, h, hR.kept s _⟩

lemma handsOn_leave (hR : Course R) : HandsOn R leave := by
  intro next s choices retries s' h
  unfold leave at h
  split at h
  · exact ⟨_, _, _, h, hR.kept s _⟩
  · contradiction

lemma HandsOn.atomic (hR : Course R) {step : Next → Next} (h : HandsOn R step) :
    HandsOn R fun next => Run.enter (step (Run.leave next)) :=
  (handsOn_enter hR).comp hR (h.comp hR (handsOn_leave hR))

/-- The condition is left before what depends on it. -/
lemma HandsOn.conditional (hR : Course R) {condition yes no : Next → Next}
    (hcondition : HandsOn R condition) (hyes : HandsOn R yes) (hno : HandsOn R no) :
    HandsOn R fun next =>
      Run.enter (Run.either (condition (Run.leave (yes next))) (no next)) :=
  (handsOn_enter hR).comp hR ((hcondition.comp hR ((handsOn_leave hR).comp hR hyes)).either hno)

end Run

namespace Context

open Run

variable {R : State → State → Prop} {ctx : Context}

lemma handsOn_set (hR : Course R) (ctx : Context) (t : CharSet) :
    HandsOn R (ctx.run (.set t)) := by
  intro next s choices retries s' h
  unfold run at h
  split at h
  · rename_i hpos
    exact ⟨_, choices, retries, h, hR.moved s _ (lt_of_advance? hpos).le⟩
  · contradiction

lemma handsOn_lookBack (hR : Course R) (back : ℕ) {body : Next → Next} (hbody : HandsOn R body) :
    HandsOn R (lookBack back body) := by
  intro next s choices retries s' h
  unfold lookBack at h
  split_ifs at h
  -- the body begins further left, but what comes behind it begins here again
  obtain ⟨t, choices, retries, ht, hst⟩ := hbody _ _ _ _ _ h
  exact ⟨_, choices, retries, ht, hR.around s t _ hst⟩

/-- What comes behind a negated body only ever fails. -/
lemma handsOn_notLook (hR : Course R) (back : ℕ) {body : Next → Next} (hbody : HandsOn R body) :
    HandsOn R fun next s choices retries =>
      Run.either (lookBack back body fun _ _ retries => .failed choices retries) next s choices
        retries := by
  intro next s choices retries s' h
  rcases matched_of_either h with ⟨_, _, h⟩ | ⟨choices, retries, h⟩
  · obtain ⟨_, _, _, hfailed, -⟩ := handsOn_lookBack hR back hbody _ _ _ _ _ h
    contradiction
  · exact ⟨s, choices, retries, h, hR.refl s⟩

lemma le_of_repeat? {span : Span} {pos next : ℕ} (h : ctx.repeat? span pos = some next) :
    pos ≤ next := by
  simp only [repeat?] at h
  split_ifs at h
  rw [← Option.some.inj h]
  exact Nat.le_add_right _ _

lemma handsOn_backref (hR : Course R) (ctx : Context) (n : ℕ) :
    HandsOn R (ctx.runBackref n) := by
  intro next s choices retries s' h
  unfold runBackref at h
  split at h
  · contradiction
  · split_ifs at h
    split at h
    · rename_i hpos
      exact ⟨_, choices, retries, h, hR.moved s _ (le_of_repeat? hpos)⟩
    · contradiction

/-- A repetition with an upper bound runs as with any amount of fuel beyond that bound. What ends it
is the bound, or the limits on retries and on open choices. -/
theorem run_counted (ctx : Context) (p : Plan) (least most : ℕ) (greedy : Bool) (next : Next)
    {fuel : ℕ} (hfuel : most < fuel) :
    ctx.run (.counted p least (some most) greedy) next =
      Run.counted (ctx.run p) least (some most) greedy next fuel 0 := by
  induction fuel, hfuel using Nat.le_induction with
  | base =>
    funext s choices retries
    rw [run]
    rfl
  | succ fuel hfuel ih =>
    rw [ih, counted_succ_fuel _ _ _ _ (Nat.zero_le most) (by omega)]

end Context

end PatternAlgebra.Engine
