import Mathlib
import PatternAlgebra.Engine.Program

/-! Factors in a row. A sequence of expressions, each of which becomes a regular expression that is
neither a row nor a choice, becomes the row of these. If it needs no backtracking, the engine takes it
unless it is too large. -/
namespace PatternAlgebra.Engine

namespace Regular

/-- One after the other. -/
def row : List Regular → Regular
  | [] => empty
  | [r] => r
  | r :: rs => seq r (row rs)

/-- Whether an expression is a single part of a row. -/
def IsFactor : Regular → Prop
  | empty | seq _ _ | alt _ _ => False
  | _ => True

variable {r : Regular} {rs : List Regular}

lemma IsFactor.ne_empty (h : r.IsFactor) : r ≠ empty := by
  rintro rfl
  exact h

lemma IsFactor.ofBranches (h : r.IsFactor) : ofBranches [r] = r := by
  cases r with
  | alt => exact h.elim
  | _ => rfl

lemma IsFactor.append (h : r.IsFactor) {e : Regular} (he : e ≠ empty) : r.append e = seq r e := by
  cases r with
  | empty | seq => exact h.elim
  | _ => cases e <;> first | rfl | contradiction

lemma row_cons (r : Regular) (hne : rs ≠ []) : row (r :: rs) = seq r (row rs) := by
  rw [row]
  exact hne

lemma row_ne_empty (hne : rs ≠ []) (h : ∀ r ∈ rs, r.IsFactor) : row rs ≠ empty := by
  fun_cases row rs with
  | case1 => contradiction
  | case2 r => exact (h r List.mem_cons_self).ne_empty
  | case3 => exact Regular.noConfusion

lemma ofBranches_row (h : ∀ r ∈ rs, r.IsFactor) : ofBranches [row rs] = row rs := by
  fun_cases row rs with
  | case1 => rfl
  | case2 r => exact (h r List.mem_cons_self).ofBranches
  | case3 => rfl

/-- An expression is not too large if both of its automata leave room for what they take besides. -/
lemma size_le {limit : ℕ} (h : ∀ backward, r.bytes backward + 208 ≤ limit) : r.size ≤ limit := by
  have hforward := h false
  have hbackward := h true
  simp only [size, overhead, if_true, Bool.false_eq_true, if_false]
  omega

lemma bytes_row (backward : Bool) (hne : rs ≠ []) :
    (row rs).bytes backward = (rs.map (bytes backward)).sum := by
  fun_induction row rs with
  | case1 => contradiction
  | case2 r => simp
  | case3 r rs hrs ih => rw [bytes, ih hrs, List.map_cons, List.sum_cons]

lemma size_row_le {limit : ℕ} (hne : rs ≠ [])
    (h : ∀ backward, (rs.map (bytes backward)).sum + 208 ≤ limit) : (row rs).size ≤ limit :=
  size_le fun backward => bytes_row backward hne ▸ h backward

lemma le_size_row (rs : List Regular) : (rs.map (bytes false)).sum ≤ (row rs).size := by
  by_cases hne : rs = []
  · rw [hne]
    exact Nat.zero_le _
  · rw [size, bytes_row false hne]
    exact (Nat.le_add_right _ _).trans (le_max_left _ _)

lemma groups_row (rs : List Regular) : (row rs).groups = rs.flatMap groups := by
  fun_induction row rs with
  | case1 => rfl
  | case2 r => simp
  | case3 r rs _ ih => rw [groups, ih, List.flatMap_cons]

end Regular

namespace Expr

variable {e : Expr} {es : List Expr}

/-- An expression that becomes a factor. -/
structure Becomes (e : Expr) (r : Regular) : Prop where
  asFactor : e.asFactor = e
  branches : Regular.branchesOf? e = some [r]
  isFactor : r.IsFactor

/-- How deep the notation of a part nests, wherever it stands in a row. -/
structure Within (depth : ℕ) (e : Expr) : Prop where
  top : e.nesting .top ≤ depth
  factor : e.nesting .factor ≤ depth
  laterFactor : e.nesting .laterFactor ≤ depth

lemma ofSequence_eq_chain (h : ∀ e ∈ es, e.asFactor = e) : ofSequence es = ofSequence.chain es := by
  fun_cases ofSequence es with
  | case1 => rfl
  | case2 e => exact (h e List.mem_cons_self).symm
  | case3 e es hne =>
    rw [ofSequence.chain]
    exact hne

lemma ofSequence_cons (he : e.asFactor = e) (hes : ∀ e ∈ es, e.asFactor = e) (hne : es ≠ []) :
    ofSequence (e :: es) = seq e (ofSequence es) := by
  rw [ofSequence_eq_chain hes, ofSequence, he]
  exact hne

lemma isEasy_ofSequence (h : ∀ e ∈ es, e.asFactor = e) :
    (ofSequence es).isEasy = es.all isEasy := by
  induction es with
  | nil => rfl
  | cons e es ih =>
    obtain ⟨he, hes⟩ := List.forall_mem_cons.mp h
    cases es with
    | nil => simp [ofSequence]
    | cons f es =>
      rw [ofSequence_cons he hes (List.cons_ne_nil f es), isEasy, ih hes, List.all_cons (a := e)]

lemma nesting_ofSequence {depth : ℕ} (h : ∀ e ∈ es, e.asFactor = e ∧ Within depth e) :
    (ofSequence es).nesting .top ≤ depth + 1 ∧ (ofSequence es).nesting .laterFactor ≤ depth := by
  induction es with
  | nil => exact ⟨Nat.zero_le _, Nat.zero_le _⟩
  | cons e es ih =>
    obtain ⟨he, hes⟩ := List.forall_mem_cons.mp h
    cases es with
    | nil => exact ⟨he.2.top.trans (Nat.le_succ depth), he.2.laterFactor⟩
    | cons f es =>
      have hmax := max_le he.2.factor (ih hes).2
      rw [ofSequence_cons he.1 (fun e he => (hes e he).1) (List.cons_ne_nil f es)]
      exact ⟨Nat.succ_le_succ hmax, hmax⟩

end Expr

lemma Part.expr_ofSequence (ps : List Part) :
    (ofSequence ps).expr = Expr.ofSequence (ps.map expr) := by
  cases ps with
  | nil => rfl
  | cons p ps => cases ps <;> rfl

section Parts

variable {α : Type} {expr : α → Expr} {regular : α → Regular} {xs : List α}

/-- The parts become factors one by one. -/
lemma Regular.ofExpr?_ofSequence (h : ∀ x ∈ xs, (expr x).Becomes (regular x)) :
    ofExpr? (Expr.ofSequence (xs.map expr)) = some (row (xs.map regular)) := by
  have hfactors (ys : List α) (hys : ∀ y ∈ ys, (expr y).Becomes (regular y)) :
      ∀ r ∈ ys.map regular, r.IsFactor := by
    intro r hr
    obtain ⟨y, hy, rfl⟩ := List.mem_map.mp hr
    exact (hys y hy).isFactor
  have hbranches : branchesOf? (Expr.ofSequence (xs.map expr)) = some [row (xs.map regular)] := by
    induction xs with
    | nil => rfl
    | cons x xs ih =>
      obtain ⟨hx, hxs⟩ := List.forall_mem_cons.mp h
      cases xs with
      | nil => exact hx.branches
      | cons y ys =>
        have hchain : ∀ e ∈ (y :: ys).map expr, e.asFactor = e := by
          intro e he
          obtain ⟨z, hz, rfl⟩ := List.mem_map.mp he
          exact (hxs z hz).asFactor
        have hrow : row ((y :: ys).map regular) ≠ empty :=
          row_ne_empty (List.cons_ne_nil _ _) (hfactors _ hxs)
        rw [List.map_cons, Expr.ofSequence_cons hx.asFactor hchain (List.cons_ne_nil _ _),
          branchesOf?, hx.branches, ih hxs]
        simp only [Option.bind_eq_bind, Option.bind_some, hx.isFactor.ofBranches,
          ofBranches_row (hfactors _ hxs), hx.isFactor.append hrow]
        rfl
  rw [ofExpr?, hbranches, Option.map_some, ofBranches_row (hfactors _ h)]

/-- The engine takes easy parts in a row unless they are too large. -/
theorem Program.ofExpr?_ofSequence {depth : ℕ} (names : List (Text × ℕ)) (groups : ℕ)
    (h : ∀ x ∈ xs, (expr x).Becomes (regular x) ∧ (expr x).isEasy = true ∧ (expr x).Within depth)
    (hdepth : depth < Regular.nestingLimit) :
    ofExpr? names groups (Expr.ofSequence (xs.map expr)) =
      if (Regular.row (xs.map regular)).size ≤ Regular.sizeLimit then
        let numbers := xs.flatMap fun x => (regular x).groups
        some { body := .regular (.row (xs.map regular)), groups := numbers.length,
               lastGroup := numbers.foldl max 0, names }
      else none := by
  have hchain : ∀ e ∈ xs.map expr, e.asFactor = e ∧ e.isEasy = true ∧ e.Within depth := by
    intro e he
    obtain ⟨x, hx, rfl⟩ := List.mem_map.mp he
    exact ⟨(h x hx).1.asFactor, (h x hx).2⟩
  have heasy : (Expr.ofSequence (xs.map expr)).isEasy = true := by
    rw [Expr.isEasy_ofSequence fun e he => (hchain e he).1, List.all_eq_true]
    exact fun e he => (hchain e he).2.1
  have hnesting : (Expr.ofSequence (xs.map expr)).nesting .top ≤ Regular.nestingLimit :=
    (Expr.nesting_ofSequence fun e he => ⟨(hchain e he).1, (hchain e he).2.2⟩).1.trans hdepth
  rw [ofExpr?, heasy, if_pos rfl]
  simp only [Regular.ofWhole?, Regular.ofExpr?_ofSequence fun x hx => (h x hx).1,
    Option.bind_eq_bind, Option.bind_some, Regular.withinLimits?, hnesting, true_and]
  split_ifs
  · rw [Option.bind_some, Regular.groups_row, List.flatMap_map]
  · rfl

end Parts

end PatternAlgebra.Engine
