import PatternAlgebra.Proofs.Engine.Course
import PatternAlgebra.Proofs.Engine.Numbering

/-! The marks of groups. While a group is open, the mark of where it was left may lie in front of that
of where it was entered. But what is inside the group does not touch its marks and only moves on, so
behind it they are in order again. -/
namespace PatternAlgebra.Engine

/-- The groups of a point run forward, and those that are open were entered in front of it. -/
structure Point.Ordered (s : Point) : Prop where
  opened : ∀ start ∈ s.opened, start ≤ s.pos
  groups : ∀ g ∈ s.groups, g.2.start ≤ g.2.stop

lemma Point.Ordered.span_le {s : Point} (h : s.Ordered) {n : ℕ} {span : Span}
    (hspan : s.groups.lookup n = some span) : span.start ≤ span.stop := by
  obtain ⟨_, _, hgroups, -⟩ := List.lookup_eq_some_iff.mp hspan
  exact h.groups (n, span) (by simp [hgroups])

lemma Point.lasting_ordered : Lasting Ordered where
  moveTo s pos hs hle := ⟨fun start hstart => (hs.opened start hstart).trans hle, hs.groups⟩
  enter s hs := ⟨List.forall_mem_cons.mpr ⟨le_rfl, hs.opened⟩, hs.groups⟩
  leave n s hs := by
    have hopened := hs.opened
    unfold Point.leave
    split
    · rename_i start opened heq
      rw [heq] at hopened
      obtain ⟨hstart, hopened⟩ := List.forall_mem_cons.mp hopened
      refine ⟨hopened, List.forall_mem_cons.mpr ⟨hstart, fun g hg => ?_⟩⟩
      exact hs.groups g (List.mem_filter.mp hg).1
    · exact hs

lemma Context.ordered_of_first? {ctx : Context} {e : Regular} {pos : ℕ} {p : Point}
    (h : ctx.first? e pos = some p) : p.Ordered :=
  of_first? Point.lasting_ordered ⟨by simp, by simp⟩ h

namespace State

variable {s t : State} {n m : ℕ}

/-- What a group holds, if anything, was entered in front of where it was left. -/
def RunsForward (s : State) (n : ℕ) : Prop :=
  ∀ span, s.group? n = some span → span.start ≤ span.stop

lemma runsForward_congr (h : t.mark? n = s.mark? n) : t.RunsForward n ↔ s.RunsForward n := by
  rw [RunsForward, RunsForward, group?, group?, h]

lemma lookup_cons_eq_ite {β : Type} (m k : ℕ) (v : β) (xs : List (ℕ × β)) :
    ((k, v) :: xs).lookup m = if m = k then some v else xs.lookup m := by
  rw [List.lookup_cons]
  split_ifs with h
  · rw [beq_iff_eq.mpr h]
  · rw [beq_eq_false_iff_ne.mpr h]

lemma lookup_filter_ne {β : Type} (n m : ℕ) (xs : List (ℕ × β)) :
    (xs.filter (·.1 != n)).lookup m = if m = n then none else xs.lookup m := by
  induction xs with
  | nil => simp
  | cons x xs ih =>
    obtain ⟨k, v⟩ := x
    by_cases hk : k = n
    · subst hk
      rw [List.filter_cons_of_neg (by simp), ih, lookup_cons_eq_ite]
      split_ifs <;> rfl
    · rw [List.filter_cons_of_pos (by simpa using hk), lookup_cons_eq_ite, lookup_cons_eq_ite, ih]
      split_ifs <;> simp_all

lemma mark?_unmark (n m : ℕ) (s : State) :
    (s.unmark n).mark? m = if m = n then none else s.mark? m := lookup_filter_ne n m s.marks

lemma mark?_setMark (n m : ℕ) (mark : Mark) (s : State) :
    (s.setMark n mark).mark? m = if m = n then some mark else s.mark? m := by
  have hcons : (s.setMark n mark).mark? m = ((n, mark) :: (s.unmark n).marks).lookup m := rfl
  have hrest : (s.unmark n).marks.lookup m = _ := mark?_unmark n m s
  rw [hcons, lookup_cons_eq_ite, hrest]
  split_ifs <;> rfl

lemma runsForward_unmark (n : ℕ) (h : s.RunsForward m) : (s.unmark n).RunsForward m := by
  by_cases hm : m = n
  · intro span hspan
    simp [group?, mark?_unmark, hm] at hspan
  · exact (runsForward_congr (by rw [mark?_unmark, if_neg hm])).mpr h

lemma runsForward_setMark {start stop : ℕ} (hle : start ≤ stop) (h : m ≠ n → s.RunsForward m) :
    (s.setMark n ⟨start, some stop⟩).RunsForward m := by
  by_cases hm : m = n
  · intro span hspan
    simp only [group?, mark?_setMark, hm] at hspan
    obtain rfl := Option.some.inj hspan
    exact hle
  · exact (runsForward_congr (by rw [mark?_setMark, if_neg hm])).mpr (h hm)

lemma mark?_enter (hne : m ≠ n) (s : State) : (s.enter n).mark? m = s.mark? m := by
  rw [enter, mark?_setMark, if_neg hne]

lemma mark?_leave (hne : m ≠ n) (s : State) : (s.leave n).mark? m = s.mark? m := by
  rw [leave, mark?_setMark, if_neg hne]

/-! ### Further on -/

/-- A state further on. The start of the match stands still if `still`, and if the groups are
`numbered`, those up to `low` keep their marks, and what ran forward still does. -/
structure Onward (still numbered : Prop) (low : ℕ) (s t : State) : Prop where
  pos : s.pos ≤ t.pos
  start : still → t.start = s.start
  marks : numbered → ∀ n ≤ low, t.mark? n = s.mark? n
  forward : numbered → ∀ n, s.RunsForward n → t.RunsForward n

variable {still numbered : Prop} {low : ℕ}

lemma course_onward (still numbered : Prop) (low : ℕ) : Course (Onward still numbered low) where
  refl _ := ⟨le_rfl, fun _ => rfl, fun _ _ _ => rfl, fun _ _ h => h⟩
  trans hst htu :=
    ⟨hst.pos.trans htu.pos, fun hs => (htu.start hs).trans (hst.start hs),
      fun hn n hle => (htu.marks hn n hle).trans (hst.marks hn n hle),
      fun hn n h => htu.forward hn n (hst.forward hn n h)⟩
  kept _ _ := ⟨le_rfl, fun _ => rfl, fun _ _ _ => rfl, fun _ _ h => h⟩
  moved _ _ hle := ⟨hle, fun _ => rfl, fun _ _ _ => rfl, fun _ _ h => h⟩
  around _ _ _ h := ⟨le_rfl, h.start, h.marks, h.forward⟩

/-- Behind a group, whose body does not touch its marks. -/
lemma onward_group (h : Onward still numbered n (s.enter n) t) (hlow : numbered → low < n) :
    Onward still numbered low s (t.leave n) where
  pos := h.pos
  start := h.start
  marks hn m hm := by
    have hne : m ≠ n := (hm.trans_lt (hlow hn)).ne
    rw [mark?_leave hne, h.marks hn m (hm.trans (hlow hn).le), mark?_enter hne]
  forward hn m hforward := by
    -- the body has left the mark of where the group was entered
    have hstart : (t.mark? n).elim t.pos (·.start) = s.pos := by
      rw [h.marks hn n le_rfl, enter, mark?_setMark, if_pos rfl]
      rfl
    rw [leave, hstart]
    refine runsForward_setMark h.pos fun hne => h.forward hn m ?_
    exact (runsForward_congr (mark?_enter hne s)).mpr hforward

/-- What a unit says about a group. -/
def note (point : Point) (s : State) (n : ℕ) : State :=
  match point.groups.lookup n with
  | some span => s.setMark n ⟨span.start, some span.stop⟩
  | none => s.unmark n

lemma onward_note {point : Point} (hpoint : point.Ordered) (s : State)
    (hlow : numbered → low < n) : Onward still numbered low s (s.note point n) := by
  have hne (hn : numbered) {m : ℕ} (hm : m ≤ low) : m ≠ n := (hm.trans_lt (hlow hn)).ne
  unfold note
  cases hspan : point.groups.lookup n with
  | none =>
    exact ⟨le_rfl, fun _ => rfl, fun hn m hm => by rw [mark?_unmark, if_neg (hne hn hm)],
      fun _ _ => runsForward_unmark n⟩
  | some span =>
    exact ⟨le_rfl, fun _ => rfl, fun hn m hm => by rw [mark?_setMark, if_neg (hne hn hm)],
      fun _ _ h => runsForward_setMark (hpoint.span_le hspan) fun _ => h⟩

/-- Behind a unit, which says anew what all of its groups hold. -/
lemma onward_adopt {ctx : Context} {e : Regular} {groups : List ℕ} {point : Point} (s : State)
    (h : ctx.first? e s.pos = some point) (hlow : numbered → ∀ n ∈ groups, low < n) :
    Onward still numbered low s (s.adopt groups point) := by
  have hcourse := course_onward still numbered low
  have hmoved := hcourse.moved s point.pos (Context.le_of_first? h)
  have hadopt : s.adopt groups point = groups.foldl (note point) { s with pos := point.pos } := rfl
  rw [hadopt]
  refine List.foldlRecOn (motive := Onward still numbered low s) groups _ hmoved ?_
  intro u hu n hn
  exact hcourse.trans hu (onward_note (Context.ordered_of_first? h) u fun hnum => hlow hnum n hn)

end State

end PatternAlgebra.Engine
