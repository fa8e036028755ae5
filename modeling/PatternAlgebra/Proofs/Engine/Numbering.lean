import Mathlib
import PatternAlgebra.Engine.Program

/-! The numbers of groups. A group that is opened gets a higher number than all groups around it, so
no group is inside itself: neither in what a grammar is read as nor in the plan that is made of it. -/
namespace PatternAlgebra.Engine

/-- The groups have numbers above `low`, those inside others above the numbers of these. -/
def Expr.Above : (low : ℕ) → Expr → Prop
  | low, seq a b | low, alt a b => a.Above low ∧ b.Above low
  | low, scope e | low, repeated e _ _ _ | low, atomic e | low, ahead _ e | low, behind _ e =>
    e.Above low
  | low, group n e => low < n ∧ e.Above n
  | low, conditional c y n => c.Above low ∧ y.Above low ∧ n.Above low
  | _, empty | _, set _ _ | _, overrun _ _ _ | _, assertion _ | _, keep | _, backref _
  | _, participated _ => True

/-- The groups have numbers above `low`, those inside others above the numbers of these. -/
def Plan.Above : (low : ℕ) → Plan → Prop
  | low, seq p q | low, alt p q => p.Above low ∧ q.Above low
  | low, zeroOrMore p _ | low, oneOrMore p _ | low, moving p _ _ | low, counted p _ _ _
  | low, atomic p | low, look _ p | low, notLook _ p => p.Above low
  | low, unit _ groups => ∀ n ∈ groups, low < n
  | low, group n p => low < n ∧ p.Above n
  | low, conditional c p q => c.Above low ∧ p.Above low ∧ q.Above low
  | _, done | _, set _ | _, check _ | _, keep | _, backref _ | _, participated _ => True

variable {low : ℕ}

namespace Expr

variable {e : Expr} {es : List Expr}

lemma Above.mono (h : e.Above low) {lower : ℕ} (hle : lower ≤ low) : e.Above lower := by
  induction e with
  | seq a b iha ihb | alt a b iha ihb => exact ⟨iha h.1, ihb h.2⟩
  | scope e ih | repeated e _ _ _ ih | atomic e ih | ahead _ e ih | behind _ e ih => exact ih h
  | group n e => exact ⟨hle.trans_lt h.1, h.2⟩
  | conditional c y n ihc ihy ihn => exact ⟨ihc h.1, ihy h.2.1, ihn h.2.2⟩
  | _ => trivial

lemma Above.lt_of_mem_groups (h : e.Above low) : ∀ n ∈ e.groups, low < n := by
  induction e generalizing low with
  | seq a b iha ihb | alt a b iha ihb =>
    exact List.forall_mem_append.mpr ⟨iha h.1, ihb h.2⟩
  | scope e ih | repeated e _ _ _ ih | atomic e ih | ahead _ e ih | behind _ e ih => exact ih h
  | group n e ih =>
    exact List.forall_mem_cons.mpr ⟨h.1, fun m hm => h.1.trans (ih h.2 m hm)⟩
  | conditional c y n ihc ihy ihn =>
    exact List.forall_mem_append.mpr ⟨List.forall_mem_append.mpr ⟨ihc h.1, ihy h.2.1⟩, ihn h.2.2⟩
  | _ => simp [groups]

lemma Above.factors (h : e.Above low) : ∀ f ∈ e.factors, f.Above low := by
  induction e with
  | seq a b _ ihb => exact List.forall_mem_cons.mpr ⟨h.1, ihb h.2⟩
  | _ => exact List.forall_mem_singleton.mpr h

lemma Above.asFactor (h : e.Above low) : e.asFactor.Above low := by
  cases e <;> exact h

lemma Above.asBranch (h : e.Above low) : e.asBranch.Above low := by
  cases e <;> exact h

lemma above_sequence_chain (h : ∀ e ∈ es, e.Above low) : (ofSequence.chain es).Above low := by
  induction es with
  | nil => trivial
  | cons e es ih =>
    obtain ⟨he, hes⟩ := List.forall_mem_cons.mp h
    cases es with
    | nil => exact he.asFactor
    | cons f es => exact ⟨he.asFactor, ih hes⟩

lemma above_ofSequence (h : ∀ e ∈ es, e.Above low) : (ofSequence es).Above low := by
  cases es with
  | nil => trivial
  | cons e es =>
    obtain ⟨he, hes⟩ := List.forall_mem_cons.mp h
    cases es with
    | nil => exact he
    | cons f es => exact ⟨he.asFactor, above_sequence_chain hes⟩

lemma above_alternatives_chain (h : ∀ e ∈ es, e.Above low) :
    (ofAlternatives.chain es).Above low := by
  induction es with
  | nil => trivial
  | cons e es ih =>
    obtain ⟨he, hes⟩ := List.forall_mem_cons.mp h
    cases es with
    | nil => exact he.asBranch
    | cons f es => exact ⟨he.asBranch, ih hes⟩

lemma above_ofAlternatives (h : ∀ e ∈ es, e.Above low) : (ofAlternatives es).Above low := by
  cases es with
  | nil => trivial
  | cons e es =>
    obtain ⟨he, hes⟩ := List.forall_mem_cons.mp h
    cases es with
    | nil => exact he
    | cons f es => exact ⟨he.asBranch, above_alternatives_chain hes⟩

end Expr

/-! ### Plans -/

namespace Plan

variable {e : Expr} {es : List Expr} {p q plan : Plan}

lemma Above.append (hp : p.Above low) (hq : q.Above low) : (p.append q).Above low := by
  unfold Plan.append
  split
  · exact hq
  · exact hp
  · exact ⟨hp, hq⟩

lemma forall_mem_some {P : Plan → Prop} : (∀ q ∈ some p, P q) ↔ P p := by simp

lemma above_map {inner : ℕ} {plan? : Option Plan} {f : Plan → Plan}
    (h : ∀ p ∈ plan?, p.Above inner) (hf : ∀ p, p.Above inner → (f p).Above low) :
    ∀ p ∈ plan?.map f, p.Above low := by
  intro p hp
  obtain ⟨q, hq, rfl⟩ := Option.map_eq_some_iff.mp hp
  exact hf q (h q hq)

/-- A plan that is made of two. -/
lemma above_both {first rest : Option Plan} {f : Plan → Plan → Plan}
    (hfirst : ∀ p ∈ first, p.Above low) (hrest : ∀ p ∈ rest, p.Above low)
    (hf : ∀ p q, p.Above low → q.Above low → (f p q).Above low) :
    ∀ r ∈ (do some (f (← first) (← rest)) : Option Plan), r.Above low := by
  intro r hr
  obtain ⟨p, hp, hr⟩ := Option.bind_eq_some_iff.mp hr
  obtain ⟨q, hq, hr⟩ := Option.bind_eq_some_iff.mp hr
  obtain rfl := Option.some.inj hr
  exact hf p q (hfirst p hp) (hrest q hq)

lemma above_unit? (h : ∀ e ∈ es, e.Above low) : ∀ p ∈ unit? es, p.Above low := by
  intro p hp
  rw [Option.mem_def, unit?] at hp
  split_ifs at hp
  · obtain rfl := Option.some.inj hp
    trivial
  · obtain ⟨r, -, rfl⟩ := Option.map_eq_some_iff.mp hp
    intro n hn
    obtain ⟨e, he, hn⟩ := List.mem_flatMap.mp hn
    exact (h e he).lt_of_mem_groups n hn

lemma Above.repeated (h : p.Above low) (e : Expr) (least : ℕ) (most : Option ℕ) (greedy : Bool) :
    (Plan.repeated e least most greedy p).Above low := by
  unfold Plan.repeated
  split
  · split_ifs <;> exact h
  · -- what may be left out is a choice with nothing
    split_ifs
    · exact ⟨h, trivial⟩
    · exact ⟨trivial, h⟩
    · exact h

/-- The parts that a sequence has had so far. -/
def Way.parts : Way → List Expr
  | lead _ parts => parts
  | whole _ | branch _ | rest _ => []

variable {way : Way}

/-- The parts are held the last first. -/
lemma above_unit?_reverse {parts : List Expr} (hparts : ∀ f ∈ parts, f.Above low) :
    ∀ p ∈ unit? parts.reverse, p.Above low :=
  above_unit? fun f hf => hparts f (List.mem_reverse.mp hf)

lemma above_settle {direct : Bool → Option Plan} (hway : ∀ f ∈ way.parts, f.Above low)
    (h : e.Above low) (hdirect : ∀ tight, ∀ p ∈ direct tight, p.Above low) :
    ∀ p ∈ settle way e direct, p.Above low := by
  have hunit : ∀ p ∈ unit? [e], p.Above low := above_unit? (List.forall_mem_singleton.mpr h)
  have hbehind (tight : Bool) :
      ∀ p ∈ if isUnit tight e then unit? [e] else direct true, p.Above low := by
    split_ifs
    · exact hunit
    · exact hdirect true
  cases way with
  | whole tight | branch tight =>
    rw [settle]
    split_ifs
    · exact hunit
    · exact hdirect tight
  | rest tight => exact hbehind tight
  | lead tight parts =>
    rw [settle]
    split
    · exact above_unit?_reverse (List.forall_mem_cons.mpr ⟨h, hway⟩)
    · exact above_both (above_unit?_reverse hway) (hbehind tight) fun _ _ => Above.append

lemma above_chain {a b : Expr} {first : Option Plan} {rest : Way → Option Plan}
    (hway : ∀ f ∈ way.parts, f.Above low) (ha : a.Above low) (hb : b.Above low)
    (hfirst : ∀ p ∈ first, p.Above low)
    (hrest : ∀ way, (∀ f ∈ way.parts, f.Above low) → ∀ p ∈ rest way, p.Above low) :
    ∀ p ∈ chain way a b first rest, p.Above low := by
  have hbehind (tight : Bool) :
      ∀ p ∈ if isUnit tight (.seq a b) then unit? (a :: b.factors)
        else (do some (append (← first) (← rest (.rest tight))) : Option Plan), p.Above low := by
    split_ifs
    · exact above_unit? (List.forall_mem_cons.mpr ⟨ha, hb.factors⟩)
    · exact above_both hfirst (hrest _ (List.forall_mem_nil _)) fun _ _ => Above.append
  have hlead (tight : Bool) {parts : List Expr} (hparts : ∀ f ∈ parts, f.Above low) :
      ∀ p ∈ chain (.lead tight parts) a b first rest, p.Above low := by
    rw [chain]
    split
    · exact hrest _ (List.forall_mem_cons.mpr ⟨ha, hparts⟩)
    · exact above_both (above_unit?_reverse hparts) (hbehind tight) fun _ _ => Above.append
  cases way with
  | whole tight | branch tight =>
    rw [chain]
    split
    · exact above_unit? (List.forall_mem_singleton.mpr ⟨ha, hb⟩)
    · exact hlead tight (by simp)
  | lead tight parts => exact hlead tight hway
  | rest tight => exact hbehind tight

/-- The plan for an expression numbers its groups as the expression does. -/
theorem above_ofExpr? (h : e.Above low) (hway : ∀ f ∈ way.parts, f.Above low) :
    ∀ p ∈ ofExpr? e way, p.Above low := by
  induction e generalizing low way with
  | seq a b iha ihb =>
    rw [ofExpr?]
    exact above_chain hway h.1 h.2 (iha h.1 (List.forall_mem_nil _)) fun way hway => ihb h.2 hway
  | alt a b iha ihb =>
    have hdirect (tight : Bool) :
        ∀ p ∈ (do some (alt (← ofExpr? a (.whole tight)) (← ofExpr? b (.branch tight))) :
          Option Plan), p.Above low :=
      above_both (iha h.1 (List.forall_mem_nil _)) (ihb h.2 (List.forall_mem_nil _))
        fun _ _ hp hq => ⟨hp, hq⟩
    cases way with
    | branch tight =>
      rw [ofExpr?]
      exact hdirect tight
    | whole tight | lead tight parts | rest tight =>
      rw [ofExpr?]
      · exact above_settle hway h hdirect
      · simp
  | scope e ih =>
    rw [ofExpr?]
    exact above_settle hway h fun tight => ih h (List.forall_mem_nil _)
  | repeated e least most greedy ih =>
    rw [ofExpr?]
    refine above_settle hway h fun tight => above_map (ih h (List.forall_mem_nil _)) fun p hp => ?_
    exact hp.repeated e least most greedy
  | group n e ih =>
    rw [ofExpr?]
    exact above_settle hway h fun tight =>
      above_map (ih h.2 (List.forall_mem_nil _)) fun p hp => ⟨h.1, hp⟩
  | conditional c y n ihc ihy ihn =>
    rw [ofExpr?]
    refine above_settle hway h fun tight r hr => ?_
    obtain ⟨c, hc, hr⟩ := Option.bind_eq_some_iff.mp hr
    obtain ⟨p, hp, hr⟩ := Option.bind_eq_some_iff.mp hr
    obtain ⟨q, hq, hr⟩ := Option.bind_eq_some_iff.mp hr
    obtain rfl := Option.some.inj hr
    exact ⟨ihc h.1 (List.forall_mem_nil _) c hc, ihy h.2.1 (List.forall_mem_nil _) p hp,
      ihn h.2.2 (List.forall_mem_nil _) q hq⟩
  | atomic e ih =>
    rw [ofExpr?]
    exact above_settle hway h fun _ => above_map (ih h (List.forall_mem_nil _)) fun _ hp => hp
  | ahead negated e ih =>
    rw [ofExpr?]
    refine above_settle hway h fun _ => above_map (ih h (List.forall_mem_nil _)) fun p hp => ?_
    split_ifs <;> exact hp
  | behind negated e ih =>
    rw [ofExpr?]
    refine above_settle hway h fun _ => ?_
    split
    · refine above_map (ih h (List.forall_mem_nil _)) fun p hp => ?_
      split_ifs <;> exact hp
    · simp
  | set s depth =>
    rw [ofExpr?]
    refine above_settle hway h fun _ => ?_
    split_ifs
    · exact forall_mem_some.mpr trivial
    · simp
  | overrun caseless a b =>
    rw [ofExpr?]
    exact above_settle hway h fun _ => above_unit? (List.forall_mem_singleton.mpr h)
  | _ =>
    rw [ofExpr?]
    exact above_settle hway h fun _ => forall_mem_some.mpr trivial

end Plan

/-! ### Reading -/

def Part.Above (low : ℕ) (p : Part) : Prop := ∀ e ∈ p.branches, e.Above low

namespace Part

variable {p : Part} {ps : List Part} {e : Expr}

lemma above_atom (h : e.Above low) (repeatable : Bool) : (atom e repeatable).Above low :=
  List.forall_mem_singleton.mpr h

lemma above_repeated (h : e.Above low) (least : ℕ) (most : Option ℕ) (greedy : Bool) :
    (atom (.repeated e least most greedy) true).Above low :=
  List.forall_mem_singleton.mpr h

lemma above_nothing : nothing.Above low := List.forall_mem_singleton.mpr trivial

lemma Above.expr (h : p.Above low) : p.expr.Above low := Expr.above_ofAlternatives h

lemma above_ofSequence (h : ∀ p ∈ ps, p.Above low) : (ofSequence ps).Above low := by
  match ps with
  | [] => exact above_nothing
  | [p] => exact h p (by simp)
  | p :: q :: ps =>
    refine above_atom (Expr.above_ofSequence fun e he => ?_) true
    obtain ⟨p, hp, rfl⟩ := List.mem_map.mp he
    exact (h p hp).expr

end Part

def Pending.Above (low : ℕ) : Pending → Prop
  | none => True
  | ready p => p.Above low
  | counted body _ _ _ => body.Above low

def FrameKind.Above (low : ℕ) : FrameKind → Prop
  | choice part _ => part.Above low
  | root | capture _ | scope _ | atomic | ahead _ | behind _ | condition => True

structure Frame.Above (low : ℕ) (f : Frame) : Prop where
  kind : f.kind.Above low
  branches : ∀ e ∈ f.branches, e.Above low
  parts : ∀ p ∈ f.parts, p.Above low
  pending : f.pending.Above low

namespace Frame

variable {f : Frame} {p : Part}

lemma Above.await (h : f.Above low) (hp : p.Above low) :
    Frame.Above low { f with pending := .ready p } :=
  ⟨h.kind, h.branches, h.parts, hp⟩

lemma Above.push (h : f.Above low) (hp : p.Above low) : (f.push p).Above low := by
  have hparts := List.forall_mem_cons.mpr ⟨hp, h.parts⟩
  cases p with
  | nothing => exact ⟨h.kind, h.branches, h.parts, trivial⟩
  | _ => exact ⟨h.kind, h.branches, hparts, trivial⟩

lemma kind_push (f : Frame) (p : Part) : (f.push p).kind = f.kind := by
  cases p <;> rfl

lemma Above.of_ready (h : f.Above low) (hp : f.pending = .ready p) : p.Above low := by
  have hpending := h.pending
  rwa [hp] at hpending

lemma Above.of_counted (h : f.Above low) {body : Expr} {least : ℕ} {most : Option ℕ} {marked : Bool}
    (hp : f.pending = .counted body least most marked) : body.Above low := by
  have hpending := h.pending
  rwa [hp] at hpending

lemma Above.settle (h : f.Above low) (swapGreed : Bool) : (f.settle swapGreed).Above low := by
  unfold Frame.settle
  split
  · exact h
  · rename_i hp
    exact h.push (h.of_ready hp)
  · rename_i hp
    exact h.push (Part.above_repeated (h.of_counted hp) _ _ _)

lemma kind_settle (swapGreed : Bool) (f : Frame) : (f.settle swapGreed).kind = f.kind := by
  unfold Frame.settle
  split
  · rfl
  · exact kind_push _ _
  · exact kind_push _ _

lemma Above.branch (h : f.Above low) : f.branch.Above low :=
  Part.above_ofSequence fun p hp => h.parts p (List.mem_reverse.mp hp)

lemma Above.endBranch (h : f.Above low) : f.endBranch.Above low :=
  ⟨h.kind, List.forall_mem_cons.mpr ⟨h.branch.expr, h.branches⟩, by simp [Frame.endBranch], h.pending⟩

lemma Above.content (h : f.Above low) : f.content.Above low := by
  unfold Frame.content
  split_ifs
  · exact h.branch
  · intro e he
    exact h.endBranch.branches e (List.mem_reverse.mp he)

end Frame

/-- Frames, the innermost first, of which the innermost capture has the number `low`. What a frame has
read is numbered above the captures around it. -/
inductive Nested : (low : ℕ) → List Frame → Prop
  | nil : Nested 0 []
  | capture {low n : ℕ} {f : Frame} {fs : List Frame} (hkind : f.kind = .capture n) (hlt : low < n)
      (hf : f.Above n) (hfs : Nested low fs) : Nested n (f :: fs)
  | cons {low : ℕ} {f : Frame} {fs : List Frame} (hkind : ∀ n, f.kind ≠ .capture n)
      (hf : f.Above low) (hfs : Nested low fs) : Nested low (f :: fs)

namespace Nested

variable {f g : Frame} {fs : List Frame}

lemma above (h : Nested low (f :: fs)) : f.Above low := by
  cases h with
  | capture _ _ hf _ => exact hf
  | cons _ hf _ => exact hf

lemma replace (h : Nested low (f :: fs)) (hkind : g.kind = f.kind) (hg : g.Above low) :
    Nested low (g :: fs) := by
  cases h with
  | capture hf hlt _ hfs => exact .capture (hkind.trans hf) hlt hg hfs
  | cons hf _ hfs => exact .cons (fun n => hkind ▸ hf n) hg hfs

end Nested

namespace Assembly

/-- The groups that have been read have numbers in the order in which they were opened. -/
def Sound (a : Assembly) : Prop := ∃ low ≤ a.groups, Nested low (a.frame :: a.outer)

variable {a b : Assembly} {p : Part} {e : Expr}

lemma Sound.update (h : a.Sound) (hgroups : b.groups = a.groups) (houter : b.outer = a.outer)
    (hkind : b.frame.kind = a.frame.kind) (hframe : ∀ low, a.frame.Above low → b.frame.Above low) :
    b.Sound := by
  obtain ⟨low, hlow, hnested⟩ := h
  refine ⟨low, hgroups ▸ hlow, ?_⟩
  rw [houter]
  exact hnested.replace hkind (hframe low hnested.above)

lemma Sound.settle (h : a.Sound) : a.settle.Sound :=
  h.update rfl rfl (Frame.kind_settle _ _) fun _ hf => hf.settle _

lemma Sound.await (h : a.Sound) (hp : ∀ low, p.Above low) : (a.await p).Sound :=
  h.settle.update rfl rfl rfl fun low hf => hf.await (hp low)

lemma Sound.awaitExpr (h : a.Sound) (he : ∀ low, e.Above low) : (a.awaitExpr e).Sound :=
  h.await fun low => Part.above_atom (he low) true

lemma Sound.count? (h : a.Sound) {least : ℕ} {most : Option ℕ} (hb : a.count? least most = some b) :
    b.Sound := by
  unfold Assembly.count? at hb
  split at hb
  · rename_i p hp
    split_ifs at hb
    obtain rfl := Option.some.inj hb
    exact h.update rfl rfl rfl fun low hf =>
      ⟨hf.kind, hf.branches, hf.parts, (hf.of_ready hp).expr⟩
  · contradiction

lemma Sound.question? (h : a.Sound) (hb : a.question? = some b) : b.Sound := by
  unfold Assembly.question? at hb
  split at hb
  · rename_i hp
    obtain rfl := Option.some.inj hb
    exact h.update rfl rfl rfl fun low hf =>
      ⟨hf.kind, hf.branches, hf.parts, hf.of_counted hp⟩
  · exact h.count? hb

lemma Sound.plus? (h : a.Sound) (hb : a.plus? = some b) : b.Sound := by
  unfold Assembly.plus? at hb
  split at hb
  · rename_i hp
    obtain rfl := Option.some.inj hb
    refine h.update rfl rfl (Frame.kind_push _ _) fun low hf => ?_
    have hbody := hf.of_counted hp
    refine Frame.Above.push hf (Part.above_atom ?_ true)
    exact hbody
  · exact h.count? hb

lemma Sound.afterBlanks (h : a.Sound) : a.afterBlanks.Sound := by
  unfold Assembly.afterBlanks
  split
  · exact h.settle
  · exact h

/-- A frame is opened inside those that there are. -/
lemma Sound.of_enter? (h : a.Sound) {kind : FrameKind} (hb : a.enter? kind = some b) :
    b.groups = a.groups ∧ b.frame = { kind } ∧ ∃ low ≤ a.groups, Nested low b.outer := by
  simp only [Assembly.enter?] at hb
  split_ifs at hb
  obtain rfl := Option.some.inj hb
  obtain ⟨low, hlow, hnested⟩ := h.settle
  exact ⟨rfl, rfl, low, hlow, hnested⟩

lemma Sound.enter? (h : a.Sound) {kind : FrameKind} (hkind : ∀ n, kind ≠ .capture n)
    (habove : ∀ low, kind.Above low) (hb : a.enter? kind = some b) : b.Sound := by
  obtain ⟨hgroups, hframe, low, hlow, hnested⟩ := h.of_enter? hb
  refine ⟨low, hgroups ▸ hlow, ?_⟩
  rw [hframe]
  exact .cons hkind ⟨habove low, by simp, by simp, trivial⟩ hnested

/-- A capture gets the next number. -/
lemma Sound.capture (h : a.Sound) (hb : a.enter? (.capture (a.groups + 1)) = some b)
    (names : List (Text × ℕ)) : Sound { b with groups := b.groups + 1, names } := by
  obtain ⟨hgroups, hframe, low, hlow, hnested⟩ := h.of_enter? hb
  refine ⟨a.groups + 1, (congrArg (· + 1) hgroups).ge, ?_⟩
  rw [hframe]
  exact .capture rfl (Nat.lt_succ_of_le hlow) ⟨trivial, by simp, by simp, trivial⟩ hnested

lemma Sound.refer? (h : a.Sound) {bound n : ℕ} {ref : GroupRef}
    (hb : a.refer? bound ref = some (n, b)) : b.Sound := by
  obtain ⟨m, -, hb⟩ := Option.bind_eq_some_iff.mp hb
  split at hb
  · split_ifs at hb
    obtain ⟨-, rfl⟩ := Prod.mk.inj (Option.some.inj hb)
    exact h
  · obtain ⟨-, rfl⟩ := Prod.mk.inj (Option.some.inj hb)
    exact h

/-- What is read by itself opens no group. -/
lemma Sound.escape? (h : a.Sound) {bound : ℕ} {escape : Escape}
    (hb : a.escape? bound escape = some b) : b.Sound := by
  unfold Assembly.escape? at hb
  split at hb
  case h_10 =>
    obtain ⟨⟨n, c⟩, hc, hb⟩ := Option.bind_eq_some_iff.mp hb
    obtain rfl := Option.some.inj hb
    exact (h.refer? hc).awaitExpr fun _ => trivial
  all_goals
    obtain rfl := Option.some.inj hb
    refine h.await fun _ => Part.above_atom ?_ _
    trivial

lemma Sound.open? (h : a.Sound) {bound length : ℕ} {opener : Opener}
    (hb : a.open? bound length opener = some b) : b.Sound := by
  cases opener with
  | capture name =>
    cases name with
    | none =>
      obtain ⟨c, hc, hb⟩ := Option.bind_eq_some_iff.mp hb
      obtain rfl := Option.some.inj hb
      exact h.capture hc c.names
    | some name =>
      obtain ⟨c, hc, hb⟩ := Option.bind_eq_some_iff.mp hb
      obtain rfl := Option.some.inj hb
      rw [← (h.of_enter? hc).1]
      exact h.capture hc ((name, c.groups + 1) :: c.names)
  | atomic | ahead _ | behind _ | condition =>
    refine h.enter? (by simp) (fun _ => ?_) hb
    trivial
  | choice ref =>
    obtain ⟨⟨n, c⟩, hc, hb⟩ := Option.bind_eq_some_iff.mp hb
    have hcondition (low : ℕ) : (Part.atom (.participated n) true).Above low :=
      List.forall_mem_singleton.mpr trivial
    refine (h.refer? hc).enter? (by simp) ?_ hb
    exact hcondition
  | reference name =>
    simp only [Assembly.open?] at hb
    split_ifs at hb
    obtain ⟨n, -, hb⟩ := Option.bind_eq_some_iff.mp hb
    obtain rfl := Option.some.inj hb
    exact h.awaitExpr fun _ => trivial
  | scope changes =>
    obtain ⟨c, hc, hb⟩ := Option.bind_eq_some_iff.mp hb
    obtain rfl := Option.some.inj hb
    have hscope : c.Sound := by
      refine h.settle.enter? (by simp) (fun _ => ?_) hc
      trivial
    exact hscope.update rfl rfl rfl fun _ hf => hf

lemma above_lookbehind (negated : Bool) (hp : p.Above low) : (lookbehind negated p).Above low := by
  have hwhole : (Part.atom (.behind negated p.expr) false).Above low :=
    List.forall_mem_singleton.mpr hp.expr
  unfold lookbehind
  split
  · rename_i branches
    have hlooks : ∀ e ∈ branches.map (.behind negated), Expr.Above low e := by
      intro e he
      obtain ⟨f, hf, rfl⟩ := List.mem_map.mp he
      exact hp f hf
    split_ifs
    · exact hwhole
    · exact Part.above_atom (Expr.above_ofSequence hlooks) false
    · exact Part.above_atom (Expr.above_ofAlternatives hlooks) false
  · exact hwhole

/-- A condition that is a reference asks whether the group has been entered. -/
lemma above_condition (p : Part) : p.Above low →
    Part.Above low (match p with
      | .atom (.backref n) r => .atom (.participated n) r
      | p => p) := by
  intro hp
  split
  · exact List.forall_mem_singleton.mpr trivial
  · exact hp

lemma above_choose? {condition body : Part} {isBare : Bool} (hcondition : condition.Above low)
    (hbody : body.Above low) (hp : choose? condition body isBare = some p) : p.Above low := by
  have hyes : (body.branches.headD .empty).Above low := by
    cases hbranches : body.branches with
    | nil => trivial
    | cons e es => exact hbody e (hbranches ▸ List.mem_cons_self)
  have hno : (Expr.ofAlternatives body.branches.tail).Above low :=
    Expr.above_ofAlternatives fun e he => hbody e (List.mem_of_mem_tail he)
  have hchosen : (choose?.chosen condition body).Above low := by
    simp only [choose?.chosen]
    split_ifs
    · exact hcondition
    · exact List.forall_mem_singleton.mpr ⟨hcondition.expr, hyes, hno⟩
  unfold choose? at hp
  split at hp
  · exact Option.some.inj hp ▸ hchosen
  · split_ifs at hp
    exact Option.some.inj hp ▸ hchosen

lemma above_content? (hf : a.frame.Above low) (hp : a.content? = some p) : p.Above low := by
  simp only [content?] at hp
  split_ifs at hp
  obtain rfl := Option.some.inj hp
  exact (hf.settle _).content

/-- What the frame around the one that is closed goes on with. -/
lemma sound_back {parent : Frame} {outer : List Frame} (hlow : low ≤ a.groups)
    (hnested : Nested low (parent :: outer)) (hp : p.Above low) (flags : SyntaxFlags) :
    Sound { a with flags, frame := { parent with pending := .ready p }, outer } :=
  ⟨low, hlow, hnested.replace rfl (hnested.above.await hp)⟩

lemma Sound.close? (h : a.Sound) {length : ℕ} (hb : a.close? length = some b) : b.Sound := by
  obtain ⟨content, hcontent, hb⟩ := Option.bind_eq_some_iff.mp hb
  obtain ⟨low, hlow, hnested⟩ := h
  have habove := above_content? hnested.above hcontent
  have hkindAbove := hnested.above.kind
  cases houter : a.outer with
  | nil => simp [houter] at hb
  | cons parent outer =>
    rw [houter] at hb hnested
    cases hnested with
    | capture hkind hlt hf hfs =>
      -- the content is numbered above the capture, and the capture above those around it
      simp only [hkind] at hb
      obtain rfl := Option.some.inj hb
      refine sound_back (hlt.le.trans hlow) hfs ?_ _
      exact List.forall_mem_singleton.mpr ⟨hlt, habove.expr⟩
    | cons hcapture hf hfs =>
      cases hkind : a.frame.kind with
      | root => simp [hkind] at hb
      | capture n => exact absurd hkind (hcapture n)
      | scope flags =>
        simp only [hkind] at hb
        obtain rfl := Option.some.inj hb
        exact sound_back hlow hfs habove _
      | atomic | ahead _ =>
        simp only [hkind] at hb
        obtain rfl := Option.some.inj hb
        refine sound_back hlow hfs ?_ _
        exact List.forall_mem_singleton.mpr habove.expr
      | behind negated =>
        simp only [hkind] at hb
        obtain rfl := Option.some.inj hb
        exact sound_back hlow hfs (above_lookbehind negated habove) _
      | condition =>
        simp only [hkind] at hb
        obtain rfl := Option.some.inj hb
        refine ⟨low, hlow, .cons (by simp) ⟨?_, by simp, by simp, trivial⟩ (houter ▸ hfs)⟩
        exact above_condition content habove
      | choice condition start =>
        simp only [hkind] at hb
        obtain ⟨p, hp, rfl⟩ := Option.map_eq_some_iff.mp hb
        rw [hkind] at hkindAbove
        exact sound_back hlow hfs (above_choose? hkindAbove habove hp) _

/-- A bracket expression has no groups. -/
lemma above_bracket {ignoreCase : Bool} {pieces : List Bracket.Piece}
    (he : Bracket.toExpr? ignoreCase pieces = some e) : e.Above low := by
  obtain ⟨⟨s, depth, rest⟩, -, he⟩ := Option.bind_eq_some_iff.mp he
  simp only at he
  split at he
  · obtain rfl := Option.some.inj he
    trivial
  · obtain ⟨es, -, he⟩ := Option.bind_eq_some_iff.mp he
    cases es with
    | nil => contradiction
    | cons last before =>
      obtain rfl := Option.some.inj he
      trivial

lemma Sound.step? (h : a.Sound) {bound : ℕ} {rest : Text} {lexeme : Lexeme}
    (hb : a.step? bound rest lexeme = some b) : b.Sound := by
  cases lexeme with
  | char c =>
    obtain rfl := Option.some.inj hb
    exact h.awaitExpr fun _ => trivial
  | escape e => exact h.escape? hb
  | dot =>
    simp only [Assembly.step?] at hb
    split_ifs at hb
    · obtain rfl := Option.some.inj hb
      exact h.awaitExpr fun _ => trivial
    · obtain rfl := Option.some.inj hb
      exact h.awaitExpr fun _ => trivial
  | caret =>
    obtain rfl := Option.some.inj hb
    exact h.await fun _ => List.forall_mem_singleton.mpr trivial
  | dollar =>
    obtain rfl := Option.some.inj hb
    exact h.await fun _ => List.forall_mem_singleton.mpr trivial
  | bracket pieces =>
    obtain ⟨e, he, rfl⟩ := Option.map_eq_some_iff.mp hb
    exact h.awaitExpr fun _ => above_bracket he
  | opener o => exact h.open? hb
  | directive changes =>
    simp only [Assembly.step?] at hb
    split_ifs at hb
    obtain rfl := Option.some.inj hb
    exact (h.await fun _ => Part.above_nothing).update rfl rfl rfl fun _ hf => hf
  | close => exact h.close? hb
  | bar =>
    obtain rfl := Option.some.inj hb
    exact h.settle.update rfl rfl rfl fun _ hf => hf.endBranch
  | question => exact h.question? hb
  | plus => exact h.plus? hb
  | star => exact h.count? hb
  | braces least most => exact h.count? hb

lemma Sound.read? {bound fuel : ℕ} {t : Text} (h : a.Sound)
    (hb : Assembly.read? bound fuel a t = some b) : b.Sound := by
  induction fuel generalizing a t with
  | zero => contradiction
  | succ fuel ih =>
    obtain ⟨rest, -, hb⟩ := Option.bind_eq_some_iff.mp hb
    have hblanks : Sound (if Lexeme.beginsWithBlank a.flags.extended t then a.afterBlanks else a) := by
      split_ifs
      · exact h.afterBlanks
      · exact h
    simp only at hb
    split at hb
    · exact Option.some.inj hb ▸ hblanks
    · obtain ⟨⟨lexeme, rest⟩, -, hb⟩ := Option.bind_eq_some_iff.mp hb
      obtain ⟨c, hc, hb⟩ := Option.bind_eq_some_iff.mp hb
      exact ih (hblanks.step? hc) hb

lemma above_finish? (h : a.Sound) (he : a.finish? = some e) : e.Above 0 := by
  unfold Assembly.finish? at he
  split at he
  · obtain ⟨p, hp, rfl⟩ := Option.map_eq_some_iff.mp he
    obtain ⟨low, -, hnested⟩ := h
    exact (above_content? hnested.above hp).expr.mono (Nat.zero_le low)
  · contradiction

end Assembly

/-- If there is a plan, no group is inside itself. -/
def Program.Numbered (p : Program) : Prop := ∀ plan, p.body = .planned plan → plan.Above 0

/-- The groups of a grammar are numbered in the order in which they open. -/
theorem Program.numbered_of_ofGrammar? {grammar : Text} {p : Program}
    (hp : ofGrammar? grammar = some p) : p.Numbered := by
  intro plan hplan
  obtain ⟨a, ha, hp⟩ := Option.bind_eq_some_iff.mp hp
  obtain ⟨e, he, hp⟩ := Option.bind_eq_some_iff.mp hp
  have hempty : Assembly.Sound {} := by
    refine ⟨0, le_rfl, .cons (by simp) ⟨?_, by simp, by simp, trivial⟩ .nil⟩
    trivial
  have habove : e.Above 0 := Assembly.above_finish? (hempty.read? ha) he
  unfold ofExpr? at hp
  split_ifs at hp
  · obtain ⟨r, -, hp⟩ := Option.bind_eq_some_iff.mp hp
    obtain rfl := Option.some.inj hp
    contradiction
  · obtain ⟨q, hq, hp⟩ := Option.bind_eq_some_iff.mp hp
    obtain rfl := Option.some.inj hp
    obtain rfl := Program.Body.planned.inj hplan
    exact Plan.above_ofExpr? habove (List.forall_mem_nil _) q hq

end PatternAlgebra.Engine
