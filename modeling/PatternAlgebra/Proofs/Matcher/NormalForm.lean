import PatternAlgebra.Matcher.Handle
import PatternAlgebra.Proofs.Regex.Fragments

/-! The normal form that the algebra keeps. No combination has a child of its own kind, and no
inversion has a source that its inverse would simplify. The operations take in one level of children
only, which is enough as long as these are in normal form themselves. So inverting twice gives every
matcher back, and the same handle unless its inverse is a simplification. -/
namespace PatternAlgebra

namespace Matcher

/-- Matchers of the library's own parts such that nowhere in them a combination has a child of its own
kind or an inversion has a trivial matcher or an inversion as its source. -/
inductive Normal : Matcher → Prop
  | regex (r : Regex) : Normal (.regex r)
  | nothing : Normal .nothing
  | whole : Normal .whole
  | conjunction {ms : List Matcher} (h : ∀ m ∈ ms, Normal m)
      (hflat : ∀ m ∈ ms, ∀ ns, m ≠ .conjunction ns) : Normal (.conjunction ms)
  | disjunction {ms : List Matcher} (h : ∀ m ∈ ms, Normal m)
      (hflat : ∀ m ∈ ms, ∀ ns, m ≠ .disjunction ns) : Normal (.disjunction ms)
  | inversion {m : Matcher} (h : Normal m) (hnothing : m ≠ .nothing) (hwhole : m ≠ .whole)
      (hinversion : ∀ n, m ≠ .inversion n) : Normal (.inversion m)

namespace Normal

variable {m n : Matcher} {ms : List Matcher}

lemma source (h : Normal (.inversion m)) : Normal m := by
  cases h with
  | inversion h _ _ _ => exact h

lemma inverse (h : Normal m) : Normal m.inverse := by
  cases h with
  | nothing => exact .whole
  | whole => exact .nothing
  | inversion h _ _ _ => exact h
  | regex r => exact .inversion (.regex r) (by simp) (by simp) (by simp)
  | conjunction h hflat => exact .inversion (.conjunction h hflat) (by simp) (by simp) (by simp)
  | disjunction h hflat => exact .inversion (.disjunction h hflat) (by simp) (by simp) (by simp)

/-- What a normal matcher contributes to a conjunction is normal, and no conjunction. -/
lemma of_mem_conjuncts (h : Normal m) {c : Matcher} (hc : c ∈ m.conjuncts) :
    Normal c ∧ ∀ ns, c ≠ .conjunction ns := by
  cases m with
  | conjunction ms =>
    cases h with
    | conjunction hms hflat => exact ⟨hms c hc, hflat c hc⟩
  | _ =>
    obtain rfl := List.mem_singleton.mp hc
    exact ⟨h, by simp⟩

lemma of_mem_disjuncts (h : Normal m) {c : Matcher} (hc : c ∈ m.disjuncts) :
    Normal c ∧ ∀ ns, c ≠ .disjunction ns := by
  cases m with
  | disjunction ms =>
    cases h with
    | disjunction hms hflat => exact ⟨hms c hc, hflat c hc⟩
  | _ =>
    obtain rfl := List.mem_singleton.mp hc
    exact ⟨h, by simp⟩

/-- Taking in one level of children is enough. -/
lemma allOf (h : ∀ m ∈ ms, Normal m) : Normal (.allOf ms) := by
  have hparts : ∀ c ∈ ms.flatMap conjuncts, Normal c ∧ ∀ ns, c ≠ .conjunction ns := by
    intro c hc
    obtain ⟨m, hm, hc⟩ := List.mem_flatMap.mp hc
    exact (h m hm).of_mem_conjuncts hc
  exact .conjunction (fun c hc => (hparts c hc).1) fun c hc => (hparts c hc).2

lemma anyOf (h : ∀ m ∈ ms, Normal m) : Normal (.anyOf ms) := by
  have hparts : ∀ c ∈ ms.flatMap disjuncts, Normal c ∧ ∀ ns, c ≠ .disjunction ns := by
    intro c hc
    obtain ⟨m, hm, hc⟩ := List.mem_flatMap.mp hc
    exact (h m hm).of_mem_disjuncts hc
  exact .disjunction (fun c hc => (hparts c hc).1) fun c hc => (hparts c hc).2

lemma and (hm : Normal m) (hn : Normal n) : Normal (m.and n) := by
  have hall : Normal (.allOf [m, n]) := .allOf (by simp [hm, hn])
  cases m with
  | nothing => exact .nothing
  | whole => exact hn
  | _ => exact hall

lemma or (hm : Normal m) (hn : Normal n) : Normal (m.or n) := by
  have hany : Normal (.anyOf [m, n]) := .anyOf (by simp [hm, hn])
  cases m with
  | nothing => exact hn
  | whole => exact .whole
  | _ => exact hany

lemma inverse_inverse (h : Normal m) : m.inverse.inverse = m := by
  cases h with
  | @inversion m _ hnothing hwhole hinversion =>
    -- the inverse is the source, whose own inverse is no simplification
    change m.inverse = .inversion m
    cases m with
    | nothing => exact absurd rfl hnothing
    | whole => exact absurd rfl hwhole
    | inversion n => exact absurd rfl (hinversion n)
    | _ => rfl
  | _ => rfl

end Normal

end Matcher

namespace Handle

open Matcher

variable {h k : Handle} {hs : List Handle}

/-- The handles of the matchers that the algebra makes of regular expressions and the trivial
matchers, by operations in any order and whatever else has been made in between. -/
inductive Built : Handle → Prop
  | regex (r : Regex) (serial : ℕ) : Built ((make (.regex r)).run serial).1
  | nothing (serial : ℕ) : Built ((make .nothing).run serial).1
  | whole (serial : ℕ) : Built ((make .whole).run serial).1
  | inverse {h : Handle} (hh : Built h) (serial : ℕ) : Built (h.inverse.run serial).1
  | and {h k : Handle} (hh : Built h) (hk : Built k) (serial : ℕ) : Built ((h.and k).run serial).1
  | or {h k : Handle} (hh : Built h) (hk : Built k) (serial : ℕ) : Built ((h.or k).run serial).1
  | allOf {hs : List Handle} (hhs : ∀ h ∈ hs, Built h) (serial : ℕ) :
      Built ((Handle.allOf hs).run serial).1
  | anyOf {hs : List Handle} (hhs : ∀ h ∈ hs, Built h) (serial : ℕ) :
      Built ((Handle.anyOf hs).run serial).1

lemma matcher_inverse (h : Handle) (serial : ℕ) :
    (h.inverse.run serial).1.matcher = h.matcher.inverse := by
  obtain ⟨identity, m⟩ := h
  cases m with
  | inversion n => cases identity <;> rfl
  | _ => rfl

lemma matcher_allOf (hs : List Handle) (serial : ℕ) :
    ((Handle.allOf hs).run serial).1.matcher = .allOf (hs.map matcher) := rfl

lemma matcher_anyOf (hs : List Handle) (serial : ℕ) :
    ((Handle.anyOf hs).run serial).1.matcher = .anyOf (hs.map matcher) := rfl

lemma matcher_and (h k : Handle) (serial : ℕ) :
    ((h.and k).run serial).1.matcher = h.matcher.and k.matcher := by
  obtain ⟨identity, m⟩ := h
  cases m <;> rfl

lemma matcher_or (h k : Handle) (serial : ℕ) :
    ((h.or k).run serial).1.matcher = h.matcher.or k.matcher := by
  obtain ⟨identity, m⟩ := h
  cases m <;> rfl

/-- By induction on the operations: each of them keeps the normal form. -/
lemma Built.normal (h : Built k) : k.matcher.Normal := by
  induction h with
  | regex r _ => exact .regex r
  | nothing _ => exact .nothing
  | whole _ => exact .whole
  | inverse _ serial ih =>
    rw [matcher_inverse]
    exact ih.inverse
  | and _ _ serial ihh ihk =>
    rw [matcher_and]
    exact ihh.and ihk
  | or _ _ serial ihh ihk =>
    rw [matcher_or]
    exact ihh.or ihk
  | allOf _ serial ih =>
    rw [matcher_allOf]
    exact .allOf (by simpa using ih)
  | anyOf _ serial ih =>
    rw [matcher_anyOf]
    exact .anyOf (by simpa using ih)

/-- A handle whose inverse is a new inversion is the one that the inversion gives back. -/
lemma inverse_inverse_eq (hnothing : h.matcher ≠ .nothing) (hwhole : h.matcher ≠ .whole)
    (hinversion : ∀ m, h.matcher ≠ .inversion m) (serial serial' : ℕ) :
    ((h.inverse.run serial).1.inverse.run serial').1 = h := by
  obtain ⟨identity, m⟩ := h
  cases m with
  | nothing => exact absurd rfl hnothing
  | whole => exact absurd rfl hwhole
  | inversion n => exact absurd rfl (hinversion n)
  | _ => rfl

/-- Whatever the algebra has made is in normal form. Inverted twice, with anything made in between, it
is the same handle unless it was trivial or an inversion, and the same matcher in any case; so it
locates, shows, replaces and escapes the same for every target, selection, visitor and template. -/
theorem built_normal_involutive (h : Built k) (serial serial' : ℕ) :
    let twice := ((k.inverse.run serial).1.inverse.run serial').1
    k.matcher.Normal ∧
      (k.matcher ≠ .nothing → k.matcher ≠ .whole → (∀ m, k.matcher ≠ .inversion m) →
        twice = k ∧ twice.same k = true) ∧
      twice.matcher = k.matcher := by
  intro twice
  refine ⟨h.normal, fun hnothing hwhole hinversion => ?_, ?_⟩
  · have hsame : twice = k := inverse_inverse_eq hnothing hwhole hinversion serial serial'
    rw [hsame]
    exact ⟨rfl, beq_self_eq_true k.identity⟩
  · have htwice : twice.matcher = k.matcher.inverse.inverse := by
      rw [matcher_inverse, matcher_inverse]
    rw [htwice, h.normal.inverse_inverse]

/-- The disjunction of `a`, `b` and `a`, in which the one of `a` and `b` has been taken in, and its
inversion. -/
theorem built_normal_involutive_spliced :
    let a := ((make (.regex (.letter 'a'))).run 0).1
    let b := ((make (.regex (.letter 'b'))).run 1).1
    let k := ((((a.or b).run 2).1.or a).run 3).1
    let gaps := (k.inverse.run 4).1
    Built k ∧ Built gaps ∧ k.matcher = .disjunction [a.matcher, b.matcher, a.matcher] ∧
      gaps.matcher.Normal ∧ (gaps.inverse.run 5).1 = k ∧
      ((gaps.inverse.run 5).1.inverse.run 6).1.matcher = gaps.matcher := by
  intro a b k gaps
  have ha : Built a := .regex _ 0
  have hb : Built b := .regex _ 1
  have hk : Built k := .or (.or ha hb 2) ha 3
  have hgaps : Built gaps := .inverse hk 4
  have hmatcher : k.matcher = .disjunction [a.matcher, b.matcher, a.matcher] := rfl
  obtain ⟨-, hsame, -⟩ := built_normal_involutive hk 4 5
  obtain ⟨hnormal, -, htwice⟩ := built_normal_involutive hgaps 5 6
  have hback := hsame (by simp [hmatcher]) (by simp [hmatcher]) (by simp [hmatcher])
  exact ⟨hk, hgaps, hmatcher, hnormal, hback.1, htwice⟩

end Handle

end PatternAlgebra
