import PatternAlgebra.Proofs.Engine.RowSearch
import PatternAlgebra.Search.Glob

/-! The tokens of a glob. A question mark and a star are tokens by themselves. Behind an opening
bracket, escaped characters are taken in pairs as long as there is a closing bracket further on, but
the first character that begins no pair begins a run up to the next closing bracket, which takes
backslashes too. There the set ends. -/
namespace PatternAlgebra

open Engine

namespace Engine

variable {t : Text} {set : CharSet} {origin : ℕ} {next : Visit} {s : Point} {w : Walk} {j : ℕ}

namespace Context

lemma advance?_single (t : Text) (origin i : ℕ) (c : Char) :
    (ofText t origin).advance? (.single c) i = if t[i]? = some c then some (i + 1) else none := by
  have hget : (ofText t origin).text[i]? = t[i]? := List.getElem?_toArray
  unfold advance?
  rw [hget]
  cases t[i]? with
  | none => simp
  | some d => simp [CharSet.contains]

lemma walkSet_of_takes (h : set.Takes t s.pos j) :
    (ofText t origin).walkSet set next s w = next (s.moveTo j) w := by
  rw [walkSet, advance?_eq_some_iff.mpr h]

lemma walkSet_of_not_takes (h : ∀ j, ¬set.Takes t s.pos j) :
    (ofText t origin).walkSet set next s w = w := by
  rw [walkSet, advance?_eq_none_iff.mpr h]

lemma walk_alt (ctx : Context) (a b : Regular) (base : ℕ) (next : Visit) (p : Point) (w : Walk) :
    ctx.walk (.alt a b) base next p w = w.once base p.pos fun w =>
      ctx.walk b (base + 1 + a.nodes) next p (ctx.walk a (base + 1) next p w) := rfl

/-- A set that is captured. -/
lemma walk_group_set (ctx : Context) (n : ℕ) (set : CharSet) (base : ℕ) (next : Visit) (i : ℕ)
    (w : Walk) :
    ctx.walk (.group n (.set set)) base next { pos := i } w =
      (ctx.advance? set i).elim w fun j => next { pos := j, groups := [(n, ⟨i, j⟩)] } w := by
  simp only [walk, walkSet, Point.enter]
  cases ctx.advance? set i <;> rfl

end Context

namespace Walk

lemma once_of_not_mem {node pos : ℕ} (h : (node, pos) ∉ w.seen) (go : Walk → Walk) :
    w.once node pos go = go { w with seen := w.seen.insert (node, pos) } := by
  unfold once
  rw [if_neg (by simpa using h)]

lemma anyNumber_greedy (step : Visit → Visit) {node fuel : ℕ} (h : (node, s.pos) ∉ w.seen) :
    anyNumber step node true (fuel + 1) next s w =
      next s (step (anyNumber step node true fuel next) s
        { w with seen := w.seen.insert (node, s.pos) }) := by
  rw [anyNumber, once_of_not_mem h]
  rfl

/-- What has been found first stays. -/
def KeepsFirst (w w' : Walk) : Prop :=
  ∀ p, w.found.getLast? = some p → w'.found.getLast? = some p

/-- Nothing is found, and nodes are entered only from a position on, and only those that have
numbers below a limit. -/
def Idles (limit pos : ℕ) (w w' : Walk) : Prop :=
  w'.found = w.found ∧
    ∀ node p, (node, p) ∈ w'.seen → (node, p) ∈ w.seen ∨ node < limit ∧ pos ≤ p

lemma growth_keepsFirst (P : Point → Prop) (limit : ℕ) : Growth P limit KeepsFirst where
  refl _ _ h := h
  trans huv hvw p h := hvw p (huv p h)
  enter _ _ _ _ _ _ h := h

lemma growth_idles (limit pos : ℕ) : Growth (pos ≤ ·.pos) limit (Idles limit pos) where
  refl _ := ⟨rfl, fun _ _ => Or.inl⟩
  trans := by
    rintro u v w ⟨huv, hv⟩ ⟨hvw, hw⟩
    refine ⟨hvw.trans huv, fun node p h => ?_⟩
    rcases hw node p h with h | h
    · exact hv node p h
    · exact Or.inr h
  enter := by
    intro w s node hs hnode
    refine ⟨rfl, fun m p h => ?_⟩
    rcases Std.HashSet.mem_insert.mp h with h | h
    · obtain ⟨rfl, rfl⟩ := Prod.mk.inj (beq_iff_eq.mp h)
      exact Or.inr ⟨hnode, hs⟩
    · exact Or.inl h

lemma Idles.not_mem {limit pos : ℕ} {w w' : Walk} (h : Idles limit pos w w') {node p : ℕ}
    (hmem : (node, p) ∉ w.seen) (hout : limit ≤ node ∨ p < pos) : (node, p) ∉ w'.seen := by
  intro hmem'
  rcases h.2 node p hmem' with hold | ⟨hnode, hpos⟩
  · exact hmem hold
  · omega

lemma not_mem_insert {key node : ℕ × ℕ} (hmem : key ∉ w.seen) (hne : node ≠ key) :
    key ∉ w.seen.insert node := by
  rw [Std.HashSet.mem_insert, beq_iff_eq]
  exact fun h => h.elim hne hmem

lemma keepsFirst_stop (node : ℕ) (s : Point) (w : Walk) : KeepsFirst w (w.stop node s) := by
  refine (growth_keepsFirst (fun _ => True) (node + 1)).once trivial (Nat.lt_succ_self node)
    (fun w p h => ?_) w
  simp [List.getLast?_cons, h]

end Walk

end Engine

namespace Search

/-! ### Sets -/

/-- A set of a glob, as the tokenizer reads it. -/
def bracketRegular : Regular :=
  .seq (.set (.single '[')) (.seq
    (.onward (.alt (.seq (.set (.single '\\')) (.set (.complement (.single '\n'))))
      (.run (.complement (.union .nothing (.single ']'))) 1 none true)) 0 true)
    (.set (.single ']')))

/-- What a run inside a set takes. -/
def innerSet : CharSet := .complement (.union .nothing (.single ']'))

def pairRegular : Regular := .seq (.set (.single '\\')) (.set (.complement (.single '\n')))

/-- What a set is made of. -/
def itemRegular : Regular := .alt pairRegular (.run innerSet 1 none true)

/-- How many characters of a text there are up to the end of a set that it is inside. -/
def closeLength : Text → ℕ
  | '\\' :: c :: u =>
    if c ≠ '\n' ∧ ']' ∈ u then closeLength u + 2 else ('\\' :: c :: u).idxOf ']' + 1
  | u => u.idxOf ']' + 1

/-- How many characters behind an opening bracket belong to its set. -/
def setLength? (u : Text) : Option ℕ :=
  if ']' ∈ u ∧ u.head? ≠ some ']' then some (closeLength u) else none

variable {t : Text} {origin base limit i p q fuel : ℕ} {w : Walk} {next : Visit}

/-- A point inside a set that begins at `i`. -/
def inSet (i p : ℕ) : Point := { pos := p, opened := [i] }

/-- The end of a set that begins at `i`. -/
def setEnd (i p : ℕ) : Point := { pos := p, groups := [(3, ⟨i, p⟩)] }

/-- The closing bracket of a set. -/
def close (t : Text) (origin limit : ℕ) : Visit :=
  (Context.ofText t origin).walkSet (.single ']') fun s w => w.stop limit (s.leave 3)

/-- More items of a set, and its closing bracket. -/
def more (t : Text) (origin base limit fuel : ℕ) : Visit :=
  Walk.anyNumber ((Context.ofText t origin).walk itemRegular (base + 1)) base true fuel
    (close t origin limit)

lemma walkSet_inSet {set : CharSet} {j : ℕ} (h : set.Takes t p j) :
    (Context.ofText t origin).walkSet set next (inSet i p) w = next (inSet i j) w :=
  Context.walkSet_of_takes (s := inSet i p) h

lemma more_succ (h : (base, p) ∉ w.seen) :
    more t origin base limit (fuel + 1) (inSet i p) w =
      close t origin limit (inSet i p) ((Context.ofText t origin).walk itemRegular (base + 1)
        (more t origin base limit fuel) (inSet i p)
          { w with seen := w.seen.insert (base, p) }) :=
  Walk.anyNumber_greedy (s := inSet i p) _ h

lemma takes_single_iff {c : Char} {j : ℕ} :
    (CharSet.single c).Takes t i j ↔ t[i]? = some c ∧ j = i + 1 := by
  simp [CharSet.Takes, CharSet.contains]

lemma takes_innerSet_iff {j : ℕ} :
    innerSet.Takes t i j ↔ ∃ c, t[i]? = some c ∧ c ≠ ']' ∧ j = i + 1 := by
  simp [CharSet.Takes, CharSet.contains, innerSet]

lemma lasting_true : Point.Lasting fun _ => True where
  moveTo _ _ _ _ := trivial
  enter _ _ := trivial
  leave _ _ _ := trivial

lemma keepsFirst_close (limit : ℕ) :
    Visit.Along (fun _ => True) Walk.KeepsFirst (close t origin limit) := by
  have hstop : Visit.Along (fun _ => True) Walk.KeepsFirst fun s w => w.stop limit (s.leave 3) :=
    fun s w _ => Walk.keepsFirst_stop limit (s.leave 3) w
  exact (Walk.growth_keepsFirst _ limit).walkSet lasting_true _ _ hstop

/-- Where there is no closing bracket further on, a set does not end. -/
lemma idles_close (hclose : ∀ q, p ≤ q → t[q]? ≠ some ']') :
    Visit.Along (p ≤ ·.pos) (Walk.Idles limit p) (close t origin limit) := by
  intro s w hs
  have hnot : ∀ j, ¬(CharSet.single ']').Takes t s.pos j :=
    fun j hj => hclose s.pos hs (takes_single_iff.mp hj).1
  rw [close, Context.walkSet_of_not_takes hnot]
  exact (Walk.growth_idles limit p).refl w

lemma close_inSet (hclose : t[p]? = some ']') (hend : (limit, p + 1) ∉ w.seen) :
    (close t origin limit (inSet i p) w).found = setEnd i (p + 1) :: w.found := by
  rw [close, walkSet_inSet (takes_single_iff.mpr ⟨hclose, rfl⟩)]
  exact congrArg Walk.found (Walk.once_of_not_mem hend _)

/-! ### Items -/

/-- An item is a pair, or else a run. -/
lemma walk_item (next : Visit) (w : Walk) :
    (Context.ofText t origin).walk itemRegular base next (inSet i p) w = w.once base p fun w =>
      (Context.ofText t origin).walk (.run innerSet 1 none true) (base + 1) next (inSet i p)
        ((Context.ofText t origin).walk pairRegular (base + 1) next (inSet i p) w) := rfl

lemma walk_pair {c : Char} (hslash : t[p]? = some '\\') (hc : t[p + 1]? = some c) (hne : c ≠ '\n') :
    (Context.ofText t origin).walk pairRegular base next (inSet i p) w =
      next (inSet i (p + 2)) w := by
  have hsecond : (CharSet.complement (.single '\n')).Takes t (p + 1) (p + 2) :=
    ⟨c, hc, by simp [CharSet.contains, hne], rfl⟩
  change (Context.ofText t origin).walkSet _ ((Context.ofText t origin).walkSet _ next) _ w = _
  rw [walkSet_inSet (takes_single_iff.mpr ⟨hslash, rfl⟩), walkSet_inSet hsecond]

lemma walk_pair_of_not (h : ∀ c, t[p]? = some '\\' → t[p + 1]? = some c → c = '\n') :
    (Context.ofText t origin).walk pairRegular base next (inSet i p) w = w := by
  change (Context.ofText t origin).walkSet _ ((Context.ofText t origin).walkSet _ next) _ w = _
  by_cases hslash : t[p]? = some '\\'
  · rw [walkSet_inSet (takes_single_iff.mpr ⟨hslash, rfl⟩)]
    refine Context.walkSet_of_not_takes ?_
    rintro j ⟨c, hc, hmem, -⟩
    obtain rfl := h c hslash hc
    simp [CharSet.contains] at hmem
  · exact Context.walkSet_of_not_takes fun j hj => hslash (takes_single_iff.mp hj).1

lemma walk_run {c : Char} (hc : t[p]? = some c) (hne : c ≠ ']') :
    (Context.ofText t origin).walk (.run innerSet 1 none true) base next (inSet i p) w =
      Walk.anyNumber ((Context.ofText t origin).walkSet innerSet) base true (t.length - p) next
        (inSet i (p + 1)) w := by
  have hfirst : (Context.ofText t origin).advanceBy? innerSet 1 p = some (p + 1) := by
    rw [Context.advanceBy?,
      Context.advance?_eq_some_iff.mpr (takes_innerSet_iff.mpr ⟨c, hc, hne, rfl⟩)]
    rfl
  have hsize : (Context.ofText t origin).text.size + 1 - (p + 1) = t.length - p := by
    rw [Nat.add_sub_add_right]
    rfl
  unfold Context.walk
  simp only [inSet, hfirst, hsize]
  rfl

lemma walk_run_of_close (hclose : t[p]? = some ']') :
    (Context.ofText t origin).walk (.run innerSet 1 none true) base next (inSet i p) w = w := by
  have hnot : ∀ j, ¬innerSet.Takes t p j := by
    intro j hj
    obtain ⟨c, hc, hne, -⟩ := takes_innerSet_iff.mp hj
    exact hne (Option.some.inj (hc.symm.trans hclose))
  have hnone : (Context.ofText t origin).advanceBy? innerSet 1 p = none := by
    rw [Context.advanceBy?, Context.advance?_eq_none_iff.mpr hnot]
    rfl
  unfold Context.walk
  simp only [inSet, hnone]

/-- No item begins with a closing bracket. -/
lemma idles_item_of_close (hclose : t[p]? = some ']') (hbase : base < limit) (next : Visit)
    (w : Walk) :
    Walk.Idles limit p w ((Context.ofText t origin).walk itemRegular base next (inSet i p) w) := by
  rw [walk_item]
  refine (Walk.growth_idles limit p).once (s := inSet i p) le_rfl hbase (fun w => ?_) w
  rw [walk_pair_of_not fun c hslash => by simp [hclose] at hslash, walk_run_of_close hclose]
  exact (Walk.growth_idles limit p).refl w

/-- At a closing bracket a set ends. -/
lemma more_of_close (hclose : t[p]? = some ']') (hbase : base + 1 < limit)
    (hnode : (base, p) ∉ w.seen) (hend : (limit, p + 1) ∉ w.seen) :
    (more t origin base limit (fuel + 1) (inSet i p) w).found = setEnd i (p + 1) :: w.found := by
  rw [more_succ hnode]
  have hidles : Walk.Idles limit p { w with seen := w.seen.insert (base, p) }
      ((Context.ofText t origin).walk itemRegular (base + 1) (more t origin base limit fuel)
        (inSet i p) { w with seen := w.seen.insert (base, p) }) :=
    idles_item_of_close hclose hbase _ _
  have hend' : (limit, p + 1) ∉ w.seen.insert (base, p) :=
    Walk.not_mem_insert hend (by simp [(Nat.lt_of_succ_lt hbase).ne])
  rw [close_inSet hclose (hidles.not_mem hend' (Or.inl le_rfl))]
  exact congrArg _ hidles.1

/-- A run goes on to the next closing bracket. -/
lemma run_to_close (hpq : p ≤ q) (hplain : ∀ x, p ≤ x → x < q → ∃ c, t[x]? = some c ∧ c ≠ ']')
    (hclose : t[q]? = some ']') (hbase : base + 2 < limit) (hfuel : q < p + fuel)
    (hrun : ∀ x, p ≤ x → x ≤ q → (base + 2, x) ∉ w.seen) (hnode : (base, q) ∉ w.seen)
    (hend : (limit, q + 1) ∉ w.seen) (hfound : w.found = [])
    (hnext : ∃ f, next (inSet i q) = more t origin base limit (f + 1) (inSet i q))
    (hkeeps : Visit.Along (fun _ => True) Walk.KeepsFirst next) :
    (Walk.anyNumber ((Context.ofText t origin).walkSet innerSet) (base + 2) true fuel next
      (inSet i p) w).found.getLast? = some (setEnd i (q + 1)) := by
  induction fuel generalizing p w with
  | zero => omega
  | succ fuel ih =>
    rw [Walk.anyNumber_greedy (s := inSet i p) _ (hrun p le_rfl hpq)]
    have hnode' : (base, q) ∉ w.seen.insert (base + 2, p) :=
      Walk.not_mem_insert hnode (by simp)
    have hend' : (limit, q + 1) ∉ w.seen.insert (base + 2, p) :=
      Walk.not_mem_insert hend (by simp [hbase.ne])
    rcases hpq.eq_or_lt with rfl | hlt
    · obtain ⟨f, hf⟩ := hnext
      have hnot : ∀ j, ¬innerSet.Takes t (inSet i p).pos j := by
        intro j hj
        obtain ⟨c, hc, hne, -⟩ := takes_innerSet_iff.mp hj
        exact hne (Option.some.inj (hc.symm.trans hclose))
      rw [Context.walkSet_of_not_takes hnot, hf,
        more_of_close hclose (Nat.lt_of_succ_lt hbase) hnode' hend', hfound]
      rfl
    · obtain ⟨c, hc, hne⟩ := hplain p le_rfl hlt
      rw [walkSet_inSet (takes_innerSet_iff.mpr ⟨c, hc, hne, rfl⟩)]
      have hplain' (x : ℕ) (hx : p + 1 ≤ x) := hplain x (Nat.le_of_succ_le hx)
      have hrun' : ∀ x, p + 1 ≤ x → x ≤ q → (base + 2, x) ∉ w.seen.insert (base + 2, p) := by
        intro x hx hxq
        exact Walk.not_mem_insert (hrun x (Nat.le_of_succ_le hx) hxq) (by simp; omega)
      exact hkeeps _ _ trivial _ (ih hlt hplain' (by omega) hrun' hnode' hend' hfound)

/-- Where there is no closing bracket further on, no further items lead to an end. -/
lemma idles_more (hclose : ∀ q, p ≤ q → t[q]? ≠ some ']') (hbase : base + 3 ≤ limit) :
    Visit.Along (p ≤ ·.pos) (Walk.Idles limit p) (more t origin base limit fuel) := by
  have hitem (next : Visit) (hnext : next.Along (p ≤ ·.pos) (Walk.Idles limit p)) :
      Visit.Along (p ≤ ·.pos) (Walk.Idles limit p)
        ((Context.ofText t origin).walk itemRegular (base + 1) next) :=
    (Walk.growth_idles limit p).walk (Point.lasting_le p) _ itemRegular hbase hnext
  exact (Walk.growth_idles limit p).anyNumber (by omega) true hitem fuel (idles_close hclose)

lemma keepsFirst_more (t : Text) (origin base limit fuel : ℕ) :
    Visit.Along (fun _ => True) Walk.KeepsFirst (more t origin base limit fuel) := by
  have hgrowth := Walk.growth_keepsFirst (fun _ => True) (base + 3)
  exact hgrowth.anyNumber (by omega) true
    (fun _ hnext => hgrowth.walk lasting_true _ itemRegular le_rfl hnext) fuel
    (keepsFirst_close limit)

lemma closeLength_of_plain {run rest : Text} (hrun : ']' ∉ run) :
    (run ++ ']' :: rest).idxOf ']' + 1 = run.length + 1 := by
  rw [List.idxOf_append_of_notMem hrun]
  simp

/-- A text inside a set goes on with a pair, or with a run up to the next closing bracket. -/
lemma closeLength_cases {u : Text} (hmem : ']' ∈ u) :
    (∃ c v, u = '\\' :: c :: v ∧ c ≠ '\n' ∧ ']' ∈ v ∧ closeLength u = closeLength v + 2) ∨
      ∃ run rest, u = run ++ ']' :: rest ∧ ']' ∉ run ∧ closeLength u = run.length + 1 ∧
        ∀ c v, u = '\\' :: c :: v → c ≠ '\n' → ']' ∉ v := by
  obtain ⟨run, rest, hsplit, hrun⟩ := List.eq_append_cons_of_mem hmem
  have hlength : u.idxOf ']' + 1 = run.length + 1 := by rw [hsplit, closeLength_of_plain hrun]
  by_cases hpair : ∃ c v, u = '\\' :: c :: v ∧ c ≠ '\n' ∧ ']' ∈ v
  · obtain ⟨c, v, rfl, hc, hv⟩ := hpair
    exact Or.inl ⟨c, v, rfl, hc, hv, by rw [closeLength, if_pos ⟨hc, hv⟩]⟩
  · refine Or.inr ⟨run, rest, hsplit, hrun, ?_, fun c v hu hc hv => hpair ⟨c, v, hu, hc, hv⟩⟩
    rw [← hlength]
    by_cases hslash : ∃ c v, u = '\\' :: c :: v
    · obtain ⟨c, v, rfl⟩ := hslash
      rw [closeLength, if_neg fun h => hpair ⟨c, v, rfl, h⟩]
    · rw [closeLength]
      exact fun c v hu => hslash ⟨c, v, hu⟩

lemma closeLength_of_head? {u : Text} (h : u.head? = some ']') : closeLength u = 1 := by
  obtain ⟨rest, rfl⟩ := List.head?_eq_some_iff.mp h
  rfl

lemma getElem?_of_drop {u v : Text} {c : Char} (hu : t.drop p = u ++ c :: v) :
    t[p + u.length]? = some c := by
  rw [← List.getElem?_drop, hu]
  simp

/-- A pair with no closing bracket behind it is tried in vain, and only further on than the run that
is tried next. -/
lemma pair_in_vain {run rest : Text} (hu : t.drop p = run ++ ']' :: rest) (hrun : run ≠ [])
    (hnot : ∀ c v, t.drop p = '\\' :: c :: v → c ≠ '\n' → ']' ∉ v) (hbase : base + 3 ≤ limit)
    (hnext : ∀ x, p < x → ∃ f, t.length < x + f ∧
      next (inSet i x) = more t origin base limit f (inSet i x))
    (hseen : ∀ n x, p < x → (n, x) ∉ w.seen) :
    ∃ w', (Context.ofText t origin).walk pairRegular (base + 2) next (inSet i p) w = w' ∧
      (∀ n x, p < x → x ≤ p + run.length → (n, x) ∉ w'.seen) ∧
      (limit, p + run.length + 1) ∉ w'.seen ∧ w'.found = w.found := by
  have hend := hseen limit (p + run.length + 1) (by omega)
  by_cases hpair : ∃ c, t[p]? = some '\\' ∧ t[p + 1]? = some c ∧ c ≠ '\n'
  · obtain ⟨c, hslash, hsecond, hc⟩ := hpair
    have hv : t.drop p = '\\' :: c :: t.drop (p + 2) := by
      obtain ⟨hp, hslash⟩ := List.getElem?_eq_some_iff.mp hslash
      obtain ⟨hp', hsecond⟩ := List.getElem?_eq_some_iff.mp hsecond
      rw [List.drop_eq_getElem_cons hp, List.drop_eq_getElem_cons hp', hslash, hsecond]
    have hnone : ']' ∉ t.drop (p + 2) := hnot c _ hv hc
    have hone : run.length = 1 := by
      match run, hrun, hu.symm.trans hv with
      | [_], _, _ => rfl
      | _ :: _ :: run, _, hsplit =>
        obtain ⟨-, htail⟩ := List.cons.inj hsplit
        obtain ⟨-, hrest⟩ := List.cons.inj htail
        exact absurd (hrest ▸ List.mem_append_right run List.mem_cons_self) hnone
    have hrest : ∀ q, p + 2 ≤ q → t[q]? ≠ some ']' := by
      intro q hq hget
      rw [← Nat.add_sub_of_le hq, ← List.getElem?_drop] at hget
      exact hnone (List.mem_of_getElem? hget)
    obtain ⟨f, -, hf⟩ := hnext (p + 2) (by omega)
    have hidles : Walk.Idles limit (p + 2) w (next (inSet i (p + 2)) w) := by
      rw [hf]
      exact idles_more hrest hbase (inSet i (p + 2)) w le_rfl
    refine ⟨_, walk_pair hslash hsecond hc, fun n x hx hle => ?_,
      hidles.not_mem hend (Or.inl le_rfl), hidles.1⟩
    exact hidles.not_mem (hseen n x hx) (Or.inr (by omega))
  · refine ⟨w, walk_pair_of_not fun c hslash hsecond => ?_, fun n x hx _ => hseen n x hx, hend, rfl⟩
    by_contra hc
    exact hpair ⟨c, hslash, hsecond, hc⟩

/-- Whatever comes next inside a set leads to its end first. -/
lemma item_finds (hhead : t[p]? ≠ some ']') (hmem : ']' ∈ t.drop p) (hbase : base + 3 ≤ limit)
    (hnext : ∀ x, p < x → ∃ f, t.length < x + f ∧
      next (inSet i x) = more t origin base limit f (inSet i x))
    (hkeeps : Visit.Along (fun _ => True) Walk.KeepsFirst next)
    (hitem : (base + 1, p) ∉ w.seen) (hseen : ∀ n x, p < x → (n, x) ∉ w.seen)
    (hfound : w.found = [])
    (hmore : ∀ f (w : Walk), ']' ∈ t.drop (p + 2) → t.length < p + 2 + f →
      (∀ n x, p + 2 ≤ x → (n, x) ∉ w.seen) → w.found = [] →
      (more t origin base limit f (inSet i (p + 2)) w).found.getLast? =
        some (setEnd i (p + 2 + closeLength (t.drop (p + 2))))) :
    ((Context.ofText t origin).walk itemRegular (base + 1) next (inSet i p) w).found.getLast? =
      some (setEnd i (p + closeLength (t.drop p))) := by
  rw [walk_item, Walk.once_of_not_mem hitem]
  have hseen' : ∀ n x, p < x → (n, x) ∉ w.seen.insert (base + 1, p) := by
    intro n x hx
    exact Walk.not_mem_insert (hseen n x hx) (by simp; omega)
  rcases closeLength_cases hmem with
    ⟨c, v, hu, hc, hv, hlength⟩ | ⟨run, rest, hu, hrun, hlength, hnot⟩
  · have hslash : t[p]? = some '\\' := getElem?_of_drop (u := []) hu
    have hsecond : t[p + 1]? = some c := getElem?_of_drop (u := ['\\']) hu
    have hrest : t.drop (p + 2) = v := by rw [← List.drop_drop, hu]; rfl
    obtain ⟨f, hfuel, hf⟩ := hnext (p + 2) (by omega)
    have hpair := hmore f { w with seen := w.seen.insert (base + 1, p) } (hrest ▸ hv) hfuel
      (fun n x hx => hseen' n x (by omega)) hfound
    rw [walk_pair hslash hsecond hc, hf]
    have hrun : Visit.Along (fun _ => True) Walk.KeepsFirst
        ((Context.ofText t origin).walk (.run innerSet 1 none true) (base + 2) next) :=
      (Walk.growth_keepsFirst (fun _ => True) limit).walk lasting_true _ _ hbase hkeeps
    refine hrun _ _ trivial _ (hpair.trans ?_)
    rw [hlength, hrest, Nat.add_assoc, Nat.add_comm 2]
  · have hclose : t[p + run.length]? = some ']' := getElem?_of_drop hu
    have hplain : ∀ x, p ≤ x → x < p + run.length → ∃ c, t[x]? = some c ∧ c ≠ ']' := by
      intro x hx hlt
      obtain ⟨k, rfl⟩ := Nat.exists_eq_add_of_le hx
      have hk : k < run.length := Nat.lt_of_add_lt_add_left hlt
      refine ⟨run[k], ?_, fun h => hrun (h ▸ List.getElem_mem hk)⟩
      rw [← List.getElem?_drop, hu, List.getElem?_append_left hk, List.getElem?_eq_getElem hk]
    have hne : run ≠ [] := by
      rintro rfl
      exact hhead hclose
    have hpos : 0 < run.length := List.length_pos_of_ne_nil hne
    obtain ⟨w', hw', hfresh, hend, hfound'⟩ := pair_in_vain
      (w := { w with seen := w.seen.insert (base + 1, p) }) hu hne hnot hbase hnext hseen'
    obtain ⟨c, hfirst, hc⟩ := hplain p le_rfl (by omega)
    obtain ⟨f, hfuel, hf⟩ := hnext (p + run.length) (by omega)
    obtain ⟨hlt, -⟩ := List.getElem?_eq_some_iff.mp hclose
    have hf' : f = f - 1 + 1 := by omega
    rw [hw', walk_run hfirst hc, hlength, ← Nat.add_assoc]
    exact run_to_close (by omega) (fun x hx => hplain x (by omega)) hclose hbase (by omega)
      (fun x hx => hfresh _ x hx) (hfresh _ _ (by omega) le_rfl) hend (hfound'.trans hfound)
      ⟨f - 1, hf.trans (by rw [← hf'])⟩ hkeeps

/-- Behind an item a set leads to its end first, too. -/
lemma more_finds (hbase : base + 3 ≤ limit) (hmem : ']' ∈ t.drop p) (hfuel : t.length < p + fuel)
    (hseen : ∀ n x, p ≤ x → (n, x) ∉ w.seen) (hfound : w.found = []) :
    (more t origin base limit fuel (inSet i p) w).found.getLast? =
      some (setEnd i (p + closeLength (t.drop p))) := by
  induction hn : t.length - p using Nat.strong_induction_on generalizing p fuel w with
  | _ n ih =>
    have hlt : p < t.length := by
      by_contra hle
      rw [List.drop_eq_nil_of_le (Nat.le_of_not_lt hle)] at hmem
      exact List.not_mem_nil hmem
    obtain ⟨f, rfl⟩ : ∃ f, fuel = f + 1 := ⟨fuel - 1, by omega⟩
    have hend := hseen limit (p + 1) (Nat.le_succ p)
    by_cases hclose : t[p]? = some ']'
    · rw [more_of_close hclose (by omega) (hseen base p le_rfl) hend, hfound,
        closeLength_of_head? (by rw [List.head?_drop, hclose])]
      rfl
    · rw [more_succ (hseen base p le_rfl)]
      refine keepsFirst_close limit _ _ trivial _ ?_
      have hnext (x : ℕ) (hx : p < x) : t.length < x + f := by omega
      refine item_finds hclose hmem hbase (fun x hx => ⟨f, hnext x hx, rfl⟩)
        (keepsFirst_more t origin base limit f) ?_ ?_ hfound ?_
      · exact Walk.not_mem_insert (hseen (base + 1) p le_rfl) (by simp)
      · intro n x hx
        exact Walk.not_mem_insert (hseen n x hx.le) (by simp; omega)
      · intro f w hmem hfuel hseen hfound
        exact ih _ (by omega) hmem hfuel hseen hfound rfl

/-- What a set comes to that is captured. -/
lemma walk_bracket (hopen : t[i]? = some '[') (hbase : base + 3 ≤ limit)
    (hseen : ∀ n x, i < x → (n, x) ∉ w.seen) (hfound : w.found = []) :
    ((Context.ofText t origin).walk (.group 3 bracketRegular) base (fun s w => w.stop limit s)
      { pos := i } w).found.getLast? =
        (setLength? (t.drop (i + 1))).map fun n => setEnd i (i + 1 + n) := by
  let onward : Visit := fun s w => more t origin base limit (t.length + 1 - s.pos) s w
  have hwalk : (Context.ofText t origin).walk (.group 3 bracketRegular) base
      (fun s w => w.stop limit s) { pos := i } w =
        (Context.ofText t origin).walkSet (.single '[')
          ((Context.ofText t origin).walk itemRegular (base + 1) onward) (inSet i i) w := rfl
  rw [hwalk, walkSet_inSet (takes_single_iff.mpr ⟨hopen, rfl⟩)]
  unfold setLength?
  split_ifs with hset
  · obtain ⟨hmem, hhead⟩ := hset
    rw [List.head?_drop] at hhead
    have hkeeps : Visit.Along (fun _ => True) Walk.KeepsFirst onward :=
      fun s => keepsFirst_more t origin base limit _ s
    refine item_finds hhead hmem hbase (fun x hx => ⟨t.length + 1 - x, by omega, rfl⟩) hkeeps
      (hseen _ _ (Nat.lt_succ_self i)) (fun n x hx => hseen n x (by omega)) hfound ?_
    intro f w hmem hfuel hseen hfound
    exact more_finds hbase hmem hfuel hseen hfound
  · have hidles : Walk.Idles limit (i + 1) w ((Context.ofText t origin).walk itemRegular (base + 1)
        onward (inSet i (i + 1)) w) := by
      by_cases hhead : t[i + 1]? = some ']'
      · exact idles_item_of_close hhead (by omega) onward w
      · have hnone : ']' ∉ t.drop (i + 1) := by
          rw [List.head?_drop] at hset
          exact fun hmem => hset ⟨hmem, hhead⟩
        have hclose : ∀ q, i + 1 ≤ q → t[q]? ≠ some ']' := by
          intro q hq hget
          rw [← Nat.add_sub_of_le hq, ← List.getElem?_drop] at hget
          exact hnone (List.mem_of_getElem? hget)
        have honward : onward.Along (i + 1 ≤ ·.pos) (Walk.Idles limit (i + 1)) :=
          fun s => idles_more hclose hbase s
        exact (Walk.growth_idles limit (i + 1)).walk (Point.lasting_le (i + 1)) _ itemRegular hbase
          honward (inSet i (i + 1)) w le_rfl
    rw [hidles.1, hfound]
    rfl

/-! ### Tokens -/

/-- The tokens of a glob, each in a group of its own. -/
def tokenRegular : Regular :=
  .alt (.group 1 (.set (.single '?')))
    (.alt (.group 2 (.set (.single '*'))) (.group 3 bracketRegular))

/-- The group in which a character captures itself as a token. -/
def tokenGroup? (c : Char) : Option ℕ :=
  if c = '?' then some 1 else if c = '*' then some 2 else none

/-- The group and the length of the token with which a text begins. -/
def token? : Text → Option (ℕ × ℕ)
  | [] => none
  | c :: u =>
    if c = '[' then (setLength? u).map fun n => (3, n + 1) else (tokenGroup? c).map fun n => (n, 1)

lemma first?_of_open (hopen : t[i]? = some '[') :
    (Context.ofText t origin).first? tokenRegular i =
      (setLength? (t.drop (i + 1))).map fun n => setEnd i (i + 1 + n) := by
  have hskip (c : Char) (hc : c ≠ '[') (n base : ℕ) (next : Visit) (w : Walk) :
      (Context.ofText t origin).walk (.group n (.set (.single c))) base next { pos := i } w =
        w := by
    rw [Context.walk_group_set, Context.advance?_single, hopen, if_neg (by simpa using hc.symm)]
    rfl
  let entered : Walk := { seen := (∅ : Std.HashSet (ℕ × ℕ)).insert (0, i) |>.insert (1, i) }
  have hwalk : (Context.ofText t origin).explore tokenRegular [{ pos := i }] =
      ((Context.ofText t origin).walk (.group 3 bracketRegular) 2 (fun s w => w.stop 5 s)
        { pos := i } entered).found.reverse := by
    rw [Context.explore, List.foldl_cons, List.foldl_nil, tokenRegular, Context.walk_alt,
      Walk.once_of_not_mem (by simp)]
    simp only [hskip, ne_eq, Char.reduceEq, not_false_eq_true]
    rw [Context.walk_alt, Walk.once_of_not_mem (by simp [Regular.nodes])]
    simp only [hskip, ne_eq, Char.reduceEq, not_false_eq_true]
    rfl
  have hseen : ∀ n x, i < x → (n, x) ∉ entered.seen := by
    intro n x hx
    refine Walk.not_mem_insert (w := { seen := (∅ : Std.HashSet (ℕ × ℕ)).insert (0, i) }) ?_ ?_
    · exact Walk.not_mem_insert (w := {}) Std.HashSet.not_mem_empty (by simp [hx.ne])
    · simp [hx.ne]
  have hfirst : (Context.ofText t origin).first? tokenRegular i =
      ((Context.ofText t origin).explore tokenRegular [{ pos := i }]).head? := rfl
  rw [hfirst, hwalk, List.head?_reverse]
  exact walk_bracket hopen le_rfl hseen rfl

lemma first?_of_not_open (hi : t[i]? ≠ some '[') :
    (Context.ofText t origin).first? tokenRegular i =
      (t[i]?.bind tokenGroup?).map fun n => { pos := i + 1, groups := [(n, ⟨i, i + 1⟩)] } := by
  have hadvance (c : Char) := Context.advance?_single t origin i c
  have hbracket (base : ℕ) (next : Visit) (w : Walk) :
      (Context.ofText t origin).walk (.group 3 bracketRegular) base next { pos := i } w = w := by
    simp only [bracketRegular, Context.walk, Context.walkSet, Point.enter, hadvance, if_neg hi]
  have hfirst : (Context.ofText t origin).first? tokenRegular i =
      ((Context.ofText t origin).explore tokenRegular [{ pos := i }]).head? := rfl
  rw [hfirst, Context.explore]
  generalize tokenRegular.nodes = node
  simp only [tokenRegular, List.foldl_cons, List.foldl_nil, Context.walk_alt, hbracket,
    Context.walk_group_set, hadvance, Regular.nodes]
  -- the nodes that are entered at a position differ, so none of them is skipped
  by_cases hquestion : t[i]? = some '?'
  · simp [hquestion, tokenGroup?, Walk.once, Walk.stop]
  · by_cases hstar : t[i]? = some '*'
    · simp [hstar, tokenGroup?, Walk.once, Walk.stop]
    · have hnone : t[i]?.bind tokenGroup? = none := by
        cases hget : t[i]? with
        | none => rfl
        | some c =>
          rw [hget, Option.some_inj] at hquestion hstar
          rw [Option.bind_some, tokenGroup?, if_neg hquestion, if_neg hstar]
      rw [hnone]
      simp [hquestion, hstar, Walk.once, Walk.stop]

/-- At each position the tokenizer finds the token with which the rest of the glob begins, if there
is one. -/
theorem first?_tokenRegular (t : Text) (origin i : ℕ) :
    (Context.ofText t origin).first? tokenRegular i =
      (token? (t.drop i)).map fun (n, length) =>
        { pos := i + length, groups := [(n, ⟨i, i + length⟩)] } := by
  cases hget : t[i]? with
  | none =>
    have hnil : t.drop i = [] := List.drop_eq_nil_of_le (List.getElem?_eq_none_iff.mp hget)
    rw [first?_of_not_open (by simp [hget]), hget, hnil]
    rfl
  | some c =>
    obtain ⟨hi, rfl⟩ := List.getElem?_eq_some_iff.mp hget
    rw [List.drop_eq_getElem_cons hi, token?]
    split_ifs with hopen
    · rw [first?_of_open (hopen ▸ hget), Option.map_map]
      refine congrArg (Option.map · _) (funext fun n => ?_)
      rw [Nat.add_assoc, Nat.add_comm 1]
      rfl
    · rw [first?_of_not_open (by simpa [hget] using hopen), hget, Option.map_map]
      rfl

end Search

end PatternAlgebra
