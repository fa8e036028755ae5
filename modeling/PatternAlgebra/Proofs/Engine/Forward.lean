import Mathlib
import PatternAlgebra.Engine.Regular.Outcome

/-! Regular expressions only move forward. What is true of the points at which a walk or a list of
outcomes begins, and stays true further on and where groups are entered and left, is true of the ends
that are found. So these lie where the search begins or behind. -/
namespace PatternAlgebra.Engine

/-- What stays true of a point that moves on, and where a group is entered or left. -/
structure Point.Lasting (P : Point → Prop) : Prop where
  moveTo : ∀ s pos, P s → s.pos ≤ pos → P (s.moveTo pos)
  enter : ∀ s, P s → P s.enter
  leave : ∀ n s, P s → P (s.leave n)

lemma Point.pos_leave (n : ℕ) (s : Point) : (s.leave n).pos = s.pos := by
  unfold Point.leave
  split <;> rfl

lemma Point.lasting_le (start : ℕ) : Lasting (start ≤ ·.pos) where
  moveTo _ _ hs hle := hs.trans hle
  enter _ hs := hs
  leave n s hs := (pos_leave n s).symm ▸ hs

variable {P : Point → Prop}

namespace Context

variable {ctx : Context} {set : CharSet} {pos next : ℕ}

lemma lt_of_advance? (h : ctx.advance? set pos = some next) : pos < next := by
  unfold advance? at h
  split at h
  · split_ifs at h
    obtain rfl := Option.some.inj h
    exact Nat.lt_succ_self pos
  · contradiction

lemma le_of_advanceBy? {n : ℕ} (h : ctx.advanceBy? set n pos = some next) : pos ≤ next := by
  induction n generalizing pos with
  | zero => exact (Option.some.inj h).le
  | succ n ih =>
    obtain ⟨mid, hmid, hrest⟩ := Option.bind_eq_some_iff.mp h
    exact (lt_of_advance? hmid).le.trans (ih hrest)

lemma le_of_mem_stretch {seen : Std.HashSet ℕ} {room : ℕ}
    (h : next ∈ ctx.stretch set seen room pos) : pos ≤ next := by
  induction room generalizing pos with
  | zero =>
    unfold stretch at h
    split_ifs at h
    · contradiction
    · exact (List.mem_singleton.mp h).ge
  | succ room ih =>
    unfold stretch at h
    split_ifs at h
    · contradiction
    · cases hmid : ctx.advance? set pos with
      | none =>
        rw [hmid] at h
        exact (List.mem_singleton.mp h).ge
      | some mid =>
        rw [hmid] at h
        rcases List.mem_cons.mp h with rfl | h
        · exact le_rfl
        · exact (lt_of_advance? hmid).le.trans (ih h)

lemma le_of_mem_runFrom {least room : ℕ} {greedy : Bool} {seen : Std.HashSet ℕ}
    (h : next ∈ ctx.runFrom set least room greedy seen pos) : pos ≤ next := by
  unfold runFrom at h
  cases hmid : ctx.advanceBy? set least pos with
  | none => simp [hmid] at h
  | some mid =>
    have hmem : next ∈ ctx.stretch set seen room mid := by
      cases greedy <;> simpa [hmid] using h
    exact (le_of_advanceBy? hmid).trans (le_of_mem_stretch hmem)

/-- A run from some points only moves one of them on. -/
lemma exists_of_mem_unboundedRuns {least : ℕ} {greedy : Bool} {seen : Std.HashSet ℕ}
    {ss : List Point} {p : Point} (hp : p ∈ ctx.unboundedRuns set least greedy seen ss) :
    ∃ s ∈ ss, s.pos ≤ p.pos ∧ s.moveTo p.pos = p := by
  induction ss generalizing seen with
  | nil => exact absurd hp List.not_mem_nil
  | cons s ss ih =>
    rcases List.mem_append.mp hp with hp | hp
    · obtain ⟨pos, hpos, rfl⟩ := List.mem_map.mp hp
      exact ⟨s, List.mem_cons_self, le_of_mem_runFrom hpos, rfl⟩
    · obtain ⟨q, hq, hmoved⟩ := ih hp
      exact ⟨q, List.mem_cons_of_mem s hq, hmoved⟩

lemma exists_of_mem_boundedRuns {least most : ℕ} {greedy : Bool} {seen : Std.HashSet ℕ}
    {ss : List Point} {p : Point} (hp : p ∈ ctx.boundedRuns set least most greedy seen ss) :
    ∃ s ∈ ss, s.pos ≤ p.pos ∧ s.moveTo p.pos = p := by
  induction ss generalizing seen with
  | nil => exact absurd hp List.not_mem_nil
  | cons s ss ih =>
    rcases List.mem_append.mp hp with hp | hp
    · obtain ⟨pos, hpos, rfl⟩ := List.mem_map.mp hp
      exact ⟨s, List.mem_cons_self, le_of_mem_runFrom (List.mem_filter.mp hpos).1, rfl⟩
    · obtain ⟨q, hq, hmoved⟩ := ih hp
      exact ⟨q, List.mem_cons_of_mem s hq, hmoved⟩

lemma forall_inARow {step : List Point → List Point}
    (hstep : ∀ ss, (∀ s ∈ ss, P s) → ∀ s ∈ step ss, P s) (n : ℕ) {ss : List Point}
    (h : ∀ s ∈ ss, P s) : ∀ s ∈ inARow step n ss, P s := by
  induction n generalizing ss with
  | zero => exact h
  | succ n ih =>
    unfold inARow
    split_ifs
    · exact fun _ hs => absurd hs List.not_mem_nil
    · exact ih (hstep ss h)

end Context

/-- A relation between a walk and what comes of it, which lasts where nodes below a limit are
entered at points of a kind. -/
structure Walk.Growth (P : Point → Prop) (limit : ℕ) (R : Walk → Walk → Prop) : Prop where
  refl : ∀ w, R w w
  trans : ∀ {u v w}, R u v → R v w → R u w
  enter : ∀ w s {node}, P s → node < limit → R w { w with seen := w.seen.insert (node, s.pos) }

/-- What comes behind a part of an expression keeps to a relation between walks, if it is begun at a
point of a kind. -/
def Visit.Along (P : Point → Prop) (R : Walk → Walk → Prop) (visit : Visit) : Prop :=
  ∀ s w, P s → R w (visit s w)

namespace Walk.Growth

variable {R : Walk → Walk → Prop} {limit : ℕ} {next : Visit}

lemma once (hR : Growth P limit R) {s : Point} {node : ℕ} (hs : P s) (hnode : node < limit)
    {go : Walk → Walk} (hgo : ∀ w, R w (go w)) (w : Walk) : R w (w.once node s.pos go) := by
  unfold Walk.once
  split_ifs
  · exact hR.refl w
  · exact hR.trans (hR.enter w s hs hnode) (hgo _)

lemma inOrder (hR : Growth P limit R) (greedy : Bool) {first second : Walk → Walk}
    (hfirst : ∀ w, R w (first w)) (hsecond : ∀ w, R w (second w)) (w : Walk) :
    R w (Walk.inOrder greedy first second w) := by
  unfold Walk.inOrder
  split_ifs
  · exact hR.trans (hfirst w) (hsecond _)
  · exact hR.trans (hsecond w) (hfirst _)

lemma times {m : ℕ} {step : ℕ → Visit → Visit}
    (hstep : ∀ i < m, ∀ next, Visit.Along P R next → Visit.Along P R (step i next)) {n i : ℕ}
    (hm : i + n ≤ m) (hnext : next.Along P R) : Visit.Along P R (Walk.times step n i next) := by
  induction n generalizing i with
  | zero => exact hnext
  | succ n ih => exact hstep i (by omega) _ (ih (by omega))

lemma atMost (hR : Growth P limit R) {m : ℕ} {step : ℕ → Visit → Visit} {node : ℕ → ℕ}
    (hnode : ∀ i < m, node i < limit) (greedy : Bool)
    (hstep : ∀ i < m, ∀ next, Visit.Along P R next → Visit.Along P R (step i next)) {n i : ℕ}
    (hm : i + n ≤ m) (hnext : next.Along P R) :
    Visit.Along P R (Walk.atMost step node greedy n i next) := by
  induction n generalizing i with
  | zero => exact hnext
  | succ n ih =>
    intro s w hs
    have hmore := hstep i (by omega) _ (ih (i := i + 1) (by omega))
    exact hR.once hs (hnode i (by omega))
      (hR.inOrder greedy (fun w => hmore s w hs) fun w => hnext s w hs) w

lemma anyNumber (hR : Growth P limit R) {step : Visit → Visit} {node : ℕ} (hnode : node < limit)
    (greedy : Bool) (hstep : ∀ next, Visit.Along P R next → Visit.Along P R (step next)) (fuel : ℕ)
    (hnext : next.Along P R) : Visit.Along P R (Walk.anyNumber step node greedy fuel next) := by
  induction fuel with
  | zero => exact fun s w _ => hR.refl w
  | succ fuel ih =>
    intro s w hs
    have hmore := hstep _ ih
    exact hR.once hs hnode (hR.inOrder greedy (fun w => hmore s w hs) fun w => hnext s w hs) w

lemma walkSet (hR : Growth P limit R) (hP : Point.Lasting P) (ctx : Context) (set : CharSet)
    (hnext : next.Along P R) : Visit.Along P R (ctx.walkSet set next) := by
  intro s w hs
  unfold Context.walkSet
  cases hpos : ctx.advance? set s.pos with
  | none => exact hR.refl w
  | some pos => exact hnext _ w (hP.moveTo s pos hs (Context.lt_of_advance? hpos).le)

/-- A walk enters only nodes of the numbers that the expression needs, at points that have moved on. -/
theorem walk (hR : Growth P limit R) (hP : Point.Lasting P) (ctx : Context) (e : Regular) {base : ℕ}
    (hbase : base + e.nodes ≤ limit) (hnext : next.Along P R) :
    Visit.Along P R (ctx.walk e base next) := by
  induction e generalizing base next with
  | empty => exact hnext
  | set t => exact hR.walkSet hP ctx t hnext
  | look a =>
    intro s w hs
    unfold Context.walk
    split_ifs
    · exact hnext s w hs
    · exact hR.refl w
  | group n e ih =>
    intro s w hs
    have hleave : Visit.Along P R fun s => next (s.leave n) :=
      fun s w hs => hnext _ w (hP.leave n s hs)
    exact ih hbase hleave s.enter w (hP.enter s hs)
  | seq a b iha ihb =>
    rw [Regular.nodes] at hbase
    exact fun s w hs => iha (by omega) (ihb (by omega) hnext) s w hs
  | alt a b iha ihb =>
    rw [Regular.nodes] at hbase
    intro s w hs
    have ha : Visit.Along P R (ctx.walk a (base + 1) next) := iha (by omega) hnext
    have hb : Visit.Along P R (ctx.walk b (base + 1 + a.nodes) next) := ihb (by omega) hnext
    exact hR.once hs (by omega) (hR.inOrder true (fun w => ha s w hs) fun w => hb s w hs) w
  | run t least most greedy =>
    intro s w hs
    unfold Context.walk
    cases hpos : ctx.advanceBy? t least s.pos with
    | none => exact hR.refl w
    | some pos =>
      have hmoved : P (s.moveTo pos) := hP.moveTo s pos hs (Context.le_of_advanceBy? hpos)
      have hset (next : Visit) (hnext : next.Along P R) := hR.walkSet hP ctx t hnext
      cases most with
      | none =>
        have hlimit : base < limit := hbase
        exact hR.anyNumber hlimit greedy hset _ hnext _ w hmoved
      | some most =>
        have hlimit : base + (most - least) ≤ limit := hbase
        exact hR.atMost (fun i hi => by omega) greedy (fun _ _ => hset) (Nat.zero_add _).le hnext _ w
          hmoved
  | between e least extra greedy ih =>
    rw [Regular.nodes] at hbase
    have hstep (i : ℕ) (hi : i < least) : base + i * e.nodes + e.nodes ≤ limit := by
      have hmul := Nat.mul_le_mul_right e.nodes (show i + 1 ≤ least by omega)
      rw [Nat.succ_mul] at hmul
      omega
    have hoption (i : ℕ) (hi : i < extra) :
        base + least * e.nodes + i * (1 + e.nodes) + 1 + e.nodes ≤ limit := by
      have hmul := Nat.mul_le_mul_right (1 + e.nodes) (show i + 1 ≤ extra by omega)
      rw [Nat.succ_mul] at hmul
      omega
    refine times (fun i hi _ hnext => ih (hstep i hi) hnext) (Nat.zero_add _).le ?_
    refine hR.atMost (fun i hi => ?_) greedy (fun i hi _ hnext => ih (hoption i hi) hnext)
      (Nat.zero_add _).le hnext
    have hlast := hoption i hi
    omega
  | onward e skipped greedy ih =>
    rw [Regular.nodes] at hbase
    have hstep (i : ℕ) (hi : i < skipped) : base + i * e.nodes + e.nodes ≤ limit := by
      have hmul := Nat.mul_le_mul_right e.nodes (show i + 1 ≤ skipped by omega)
      rw [Nat.succ_mul] at hmul
      omega
    have hlast (next : Visit) (hnext : next.Along P R) :
        Visit.Along P R (ctx.walk e (base + skipped * e.nodes + 1) next) := ih (by omega) hnext
    have hmore : Visit.Along P R fun s w =>
        Walk.anyNumber (ctx.walk e (base + skipped * e.nodes + 1)) (base + skipped * e.nodes) greedy
          (ctx.text.size + 1 - s.pos) next s w :=
      fun s => hR.anyNumber (by omega) greedy hlast _ hnext s
    exact times (fun i hi _ hnext => ih (hstep i hi) hnext) (Nat.zero_add _).le (hlast _ hmore)
  | zeroOrMore e greedy ih =>
    rw [Regular.nodes] at hbase
    intro s w hs
    exact hR.anyNumber (by omega) greedy (fun _ hnext => ih (by omega) hnext) _ hnext s w hs

end Walk.Growth

/-- That all ends that have been found are of a kind lasts. -/
lemma Walk.growth_found (P : Point → Prop) (limit : ℕ) :
    Growth P limit fun w w' => (∀ s ∈ w.found, P s) → ∀ s ∈ w'.found, P s where
  refl _ h := h
  trans huv hvw h := hvw (huv h)
  enter _ _ _ _ _ h := h

namespace Context

lemma forall_explore (ctx : Context) (hP : Point.Lasting P) (e : Regular) {ss : List Point}
    (h : ∀ s ∈ ss, P s) : ∀ s ∈ ctx.explore e ss, P s := by
  have hstop : Visit.Along P (fun w w' => (∀ s ∈ w.found, P s) → ∀ s ∈ w'.found, P s)
      fun s w => w.stop e.nodes s := by
    intro s w hs
    refine (Walk.growth_found P (e.nodes + 1)).once hs (Nat.lt_succ_self _) (fun w hw => ?_) w
    exact List.forall_mem_cons.mpr ⟨hs, hw⟩
  have hwalk := (Walk.growth_found P e.nodes).walk hP ctx e (Nat.zero_add _).le hstop
  have hfold (ss : List Point) (h : ∀ s ∈ ss, P s) (w : Walk) (hw : ∀ s ∈ w.found, P s) :
      ∀ s ∈ (ss.foldl (fun w s => ctx.walk e 0 (fun s w => w.stop e.nodes s) s w) w).found, P s := by
    induction ss generalizing w with
    | nil => exact hw
    | cons s ss ih =>
      obtain ⟨hs, hss⟩ := List.forall_mem_cons.mp h
      exact ih hss _ (hwalk s w hs hw)
  have hfound := hfold ss h {} fun p hp => absurd hp List.not_mem_nil
  exact fun p hp => hfound p (List.mem_reverse.mp hp)

/-- The outcomes of an expression from points of a kind are such points. -/
theorem forall_outcomes (ctx : Context) (hP : Point.Lasting P) (e : Regular) {ss : List Point}
    (h : ∀ s ∈ ss, P s) : ∀ s ∈ ctx.outcomes e ss, P s := by
  induction e generalizing ss with
  | empty => exact h
  | set t =>
    intro p hp
    obtain ⟨s, hs, hmap⟩ := List.mem_filterMap.mp hp
    obtain ⟨pos, hpos, rfl⟩ := Option.map_eq_some_iff.mp hmap
    exact hP.moveTo s pos (h s hs) (lt_of_advance? hpos).le
  | look a => exact fun p hp => h p (List.mem_filter.mp hp).1
  | group n e ih =>
    intro p hp
    obtain ⟨q, hq, rfl⟩ := List.mem_map.mp hp
    have henter : ∀ s ∈ ss.map .enter, P s := by
      intro t ht
      obtain ⟨s, hs, rfl⟩ := List.mem_map.mp ht
      exact hP.enter s (h s hs)
    exact hP.leave n q (ih henter q hq)
  | seq a b iha ihb => exact ihb (iha h)
  | alt a b => exact ctx.forall_explore hP _ h
  | run t least most greedy =>
    intro p hp
    have hmoved : ∃ s ∈ ss, s.pos ≤ p.pos ∧ s.moveTo p.pos = p := by
      cases most with
      | none => exact exists_of_mem_unboundedRuns hp
      | some most => exact exists_of_mem_boundedRuns hp
    obtain ⟨s, hs, hle, heq⟩ := hmoved
    exact heq ▸ hP.moveTo s p.pos (h s hs) hle
  | between e least extra greedy ih =>
    cases extra with
    | zero => exact forall_inARow (fun _ => ih) least h
    | succ extra => exact ctx.forall_explore hP _ h
  | onward e skipped greedy => exact ctx.forall_explore hP _ h
  | zeroOrMore e greedy => exact ctx.forall_explore hP _ h

lemma of_first? {ctx : Context} (hP : Point.Lasting P) {e : Regular} {pos : ℕ} {p : Point}
    (hpos : P { pos }) (h : ctx.first? e pos = some p) : P p :=
  ctx.forall_outcomes hP e (List.forall_mem_singleton.mpr hpos) p (List.mem_of_mem_head? h)

lemma le_of_first? {ctx : Context} {e : Regular} {pos : ℕ} {p : Point}
    (h : ctx.first? e pos = some p) : pos ≤ p.pos :=
  of_first? (Point.lasting_le pos) le_rfl h

end Context

end PatternAlgebra.Engine
