import PatternAlgebra.Matcher.Formula
import PatternAlgebra.Proofs.Matcher.Algebra
import PatternAlgebra.Proofs.Matcher.Breakage
import PatternAlgebra.Proofs.Matcher.Configuration
import PatternAlgebra.Proofs.Matcher.First

/-! Where combinations of regular expressions match. What counts are the matches of the leaves that
are exposed: every combination around such a leaf has a match. A combination has a match just if a
match is exposed in it, it locates one of those that start leftmost, and it shows no others. Taking
in the parts of combinations of the same kind makes no difference to what is exposed. -/
namespace PatternAlgebra

open Fragment

lemma CharRange.start_le_of_isChain {r : CharRange} {rs : List CharRange}
    (h : (r :: rs).IsChain (·.stop ≤ ·.start)) : ∀ q ∈ r :: rs, r.start ≤ q.start := by
  induction rs generalizing r with
  | nil => simp
  | cons s rs ih =>
    obtain ⟨hle, hrest⟩ := List.isChain_cons_cons.mp h
    have hs : r.start ≤ s.start := r.start_le_stop.trans hle
    exact List.forall_mem_cons.mpr ⟨le_rfl, fun q hq => hs.trans (ih hrest q hq)⟩

namespace Matcher

/-- Regular expressions whose matches in a text are in order, and combinations of such matchers. A
conjunction has parts. -/
inductive Joined (t : Text) : Matcher → Prop
  | regex {r : Regex} (h : r.InOrder t) : Joined t (.regex r)
  | conjunction {ms : List Matcher} (hne : ms ≠ []) (h : ∀ m ∈ ms, Joined t m) :
      Joined t (.conjunction ms)
  | disjunction {ms : List Matcher} (h : ∀ m ∈ ms, Joined t m) : Joined t (.disjunction ms)

/-- A match of a leaf such that every combination around the leaf has a match. -/
inductive Exposes (t : Text) : Matcher → CharRange → Prop
  | regex {r : Regex} {q : CharRange} (h : q ∈ (r.occurrences t).map (·.whole)) :
      Exposes t (.regex r) q
  | child {m c : Matcher} {ms : List Matcher} {q : CharRange} (hm : Combines m ms)
      (hhas : m.hasMatches t = true) (hc : c ∈ ms) (hq : Exposes t c q) : Exposes t m q

variable {t : Text} {m : Matcher} {ms : List Matcher} {q : CharRange}

lemma Joined.child (h : m.Joined t) (hm : Combines m ms) : ∀ c ∈ ms, c.Joined t := by
  cases h with
  | regex _ => cases hm
  | conjunction _ h => cases hm; exact h
  | disjunction h => cases hm; exact h

lemma exposes_combination_iff (h : Combines m ms) :
    m.Exposes t q ↔ m.hasMatches t = true ∧ ∃ c ∈ ms, c.Exposes t q := by
  constructor
  · rintro (_ | ⟨hm, hhas, hc, hq⟩)
    · cases h
    · cases h <;> cases hm <;> exact ⟨hhas, _, hc, hq⟩
  · rintro ⟨hhas, c, hc, hq⟩
    exact .child h hhas hc hq

lemma Exposes.hasMatches (h : m.Exposes t q) : m.hasMatches t = true := by
  cases h with
  | @regex r q hq =>
    rw [hasMatches_eq_isSome_locate, locate, r.locate_eq]
    cases hocc : r.occurrences t with
    | nil => simp [hocc] at hq
    | cons first later => rfl
  | child _ hhas _ _ => exact hhas

lemma exposes_of_locate_combination (h : Combines m ms)
    (ih : ∀ c ∈ ms, ∀ q, c.locate t = some q → c.Exposes t q) (hq : m.locate t = some q) :
    m.Exposes t q := by
  have hhas : m.hasMatches t = true := by simp [hasMatches_eq_isSome_locate, hq]
  obtain ⟨before, c, after, rfl, hleads⟩ := exists_leads h hq
  exact .child h hhas (by simp) (ih c (by simp) q hleads.locate)

/-- What is located is exposed. -/
lemma exposes_of_locate (h : m.Joined t) (hq : m.locate t = some q) : m.Exposes t q := by
  induction h generalizing q with
  | @regex r h =>
    rw [locate, r.locate_eq, Option.map_eq_some_iff] at hq
    obtain ⟨first, hfirst, rfl⟩ := hq
    exact .regex (List.mem_map_of_mem (List.mem_of_mem_head? hfirst))
  | conjunction _ _ ih =>
    exact exposes_of_locate_combination (.conjunction _) (fun c hc _ => ih c hc) hq
  | disjunction _ ih =>
    exact exposes_of_locate_combination (.disjunction _) (fun c hc _ => ih c hc) hq

/-- Nothing is exposed in front of what is located. -/
lemma start_le_of_exposes (h : m.Joined t) {first : CharRange} (hfirst : m.locate t = some first)
    (hq : m.Exposes t q) : first.start ≤ q.start := by
  induction hq generalizing first with
  | @regex r q hmem =>
    obtain ⟨hr⟩ := h
    rw [locate, r.locate_eq, ← List.head?_map] at hfirst
    obtain ⟨rs, hrs⟩ := List.head?_eq_some_iff.mp hfirst
    rw [Regex.InOrder, hrs] at hr
    exact CharRange.start_le_of_isChain hr q (hrs ▸ hmem)
  | @child m c ms q hm _ hc hq ih =>
    obtain ⟨f, hf⟩ := Option.isSome_iff_exists.mp (c.hasMatches_eq_isSome_locate t ▸ hq.hasMatches)
    obtain ⟨before, d, after, rfl, hleads⟩ := exists_leads hm hfirst
    exact (hleads.start_le c hc f hf).trans (ih (h.child hm c hc) hf)

/-- What is shown of a combination is shown of one of its children. -/
lemma mem_shown_combination (h : Combines m ms)
    (hq : q ∈ matchedRanges (m.ranges t .matchesOnly)) :
    m.hasMatches t = true ∧ ∃ c ∈ ms, q ∈ matchedRanges (c.ranges t .matchesOnly) := by
  rw [shown_combination h] at hq
  split_ifs at hq with hhas
  · exact ⟨hhas, List.mem_flatMap.mp (Union.mem_of_mem_foldl_keep (mem_merged.mp hq))⟩
  · contradiction

/-- What is shown is exposed. -/
lemma exposes_of_shown (h : m.Joined t) (hq : q ∈ matchedRanges (m.ranges t .matchesOnly)) :
    m.Exposes t q := by
  induction h generalizing q with
  | @regex r h => exact .regex (matchedRanges_regex r t ▸ hq)
  | conjunction _ _ ih =>
    obtain ⟨hhas, c, hc, hq⟩ := mem_shown_combination (.conjunction _) hq
    exact .child (.conjunction _) hhas hc (ih c hc hq)
  | disjunction _ ih =>
    obtain ⟨hhas, c, hc, hq⟩ := mem_shown_combination (.disjunction _) hq
    exact .child (.disjunction _) hhas hc (ih c hc hq)

/-- A combination that has a match shows one if a child does: that one, or one that it gives way
to. -/
lemma shown_ne_nil_of_child (h : Combines m ms) (hm : m.hasMatches t = true) {c : Matcher}
    (hc : c ∈ ms) (hshown : matchedRanges (c.ranges t .matchesOnly) ≠ []) :
    matchedRanges (m.ranges t .matchesOnly) ≠ [] := by
  obtain ⟨q, hq⟩ := List.exists_mem_of_ne_nil _ hshown
  have hmem : q ∈ candidates ms t := List.mem_flatMap.mpr ⟨c, hc, hq⟩
  obtain ⟨k, hk, -⟩ := Union.exists_conflict_of_mem hmem
  rw [shown_combination h, if_pos hm]
  exact List.ne_nil_of_mem (mem_merged.mpr hk)

/-- A matcher that has a match shows one. -/
lemma shown_ne_nil (h : m.Joined t) (hm : m.hasMatches t = true) :
    matchedRanges (m.ranges t .matchesOnly) ≠ [] := by
  induction h with
  | @regex r h =>
    rw [hasMatches_eq_isSome_locate, locate, r.locate_eq] at hm
    rw [matchedRanges_regex]
    rintro hnone
    simp [List.map_eq_nil_iff.mp hnone] at hm
  | @conjunction ms hne _ ih =>
    obtain ⟨c, hc⟩ := List.exists_mem_of_ne_nil ms hne
    have hall := ((hasMatches_conjunction ms t).mp hm).2
    exact shown_ne_nil_of_child (.conjunction ms) hm hc (ih c hc (hall c hc))
  | @disjunction ms _ ih =>
    obtain ⟨c, hc, hhas⟩ := (hasMatches_disjunction ms t).mp hm
    exact shown_ne_nil_of_child (.disjunction ms) hm hc (ih c hc hhas)

lemma Joined.not_scripted (h : m.Joined t) (script : Script) : m ≠ .scripted script := by
  rintro rfl
  cases h

lemma matchRanges_eq_map_shown (h : m.Joined t) :
    m.matchRanges t = (matchedRanges (m.ranges t .matchesOnly)).map .matched := by
  have hshown : m.ranges t .matchesOnly = m.matchRanges t := rfl
  rw [hshown, matchRanges_eq_map h.not_scripted, matchedRanges_map_matched]

lemma hasMatches_iff_matchRanges_ne_nil (h : m.Joined t) :
    m.hasMatches t = true ↔ m.matchRanges t ≠ [] := by
  rw [matchRanges_eq_map_shown h, Ne, List.map_eq_nil_iff]
  refine ⟨shown_ne_nil h, fun hne => ?_⟩
  obtain ⟨q, hq⟩ := List.exists_mem_of_ne_nil _ hne
  exact (exposes_of_shown h hq).hasMatches

/-- What a list of matchers exposes stays the same when the parts of some of them take their place,
provided that these match where the whole and one of their parts do. -/
lemma exposes_flatMap_iff {parts : Matcher → List Matcher} (h : Combines m (ms.flatMap parts))
    (hparts : ∀ c ∈ ms, parts c = [c] ∨ Combines c (parts c))
    (hhas : m.hasMatches t = true →
      ∀ c ∈ ms, ∀ d ∈ parts c, d.hasMatches t = true → c.hasMatches t = true) :
    m.Exposes t q ↔ m.hasMatches t = true ∧ ∃ c ∈ ms, c.Exposes t q := by
  rw [exposes_combination_iff h]
  refine and_congr_right fun hm => ?_
  constructor
  · rintro ⟨d, hd, hq⟩
    obtain ⟨c, hc, hdc⟩ := List.mem_flatMap.mp hd
    refine ⟨c, hc, ?_⟩
    rcases hparts c hc with hself | hcombines
    · rw [hself, List.mem_singleton] at hdc
      exact hdc ▸ hq
    · exact .child hcombines (hhas hm c hc d hdc hq.hasMatches) hdc hq
  · rintro ⟨c, hc, hq⟩
    rcases hparts c hc with hself | hcombines
    · exact ⟨c, List.mem_flatMap.mpr ⟨c, hc, by simp [hself]⟩, hq⟩
    · obtain ⟨-, d, hd, hq⟩ := (exposes_combination_iff hcombines).mp hq
      exact ⟨d, List.mem_flatMap.mpr ⟨c, hc, hd⟩, hq⟩

lemma conjuncts_eq_or_combines (m : Matcher) :
    m.conjuncts = [m] ∨ Combines m m.conjuncts := by
  cases m with
  | conjunction ms => exact .inr (.conjunction ms)
  | _ => exact .inl rfl

lemma disjuncts_eq_or_combines (m : Matcher) :
    m.disjuncts = [m] ∨ Combines m m.disjuncts := by
  cases m with
  | disjunction ms => exact .inr (.disjunction ms)
  | _ => exact .inl rfl

lemma Joined.ne_conjunction_nil (h : m.Joined t) : m ≠ .conjunction [] := by
  rintro rfl
  cases h with
  | conjunction hne _ => exact hne rfl

lemma conjunction_nil_notMem (h : ∀ m ∈ ms, m.Joined t) : conjunction [] ∉ ms :=
  fun hnil => (h _ hnil).ne_conjunction_nil rfl

lemma Joined.conjuncts (h : m.Joined t) : m.conjuncts ≠ [] ∧ ∀ c ∈ m.conjuncts, c.Joined t :=
  ⟨conjuncts_ne_nil_iff.mpr h.ne_conjunction_nil,
    forall_mem_conjuncts (fun ms h => h.child (.conjunction ms)) h⟩

lemma Joined.disjuncts (h : m.Joined t) : ∀ c ∈ m.disjuncts, c.Joined t :=
  forall_mem_disjuncts (fun ms h => h.child (.disjunction ms)) h

lemma Joined.allOf (hne : ms ≠ []) (h : ∀ m ∈ ms, m.Joined t) : (allOf ms).Joined t := by
  refine .conjunction ?_ fun c hc => ?_
  · obtain ⟨m, hm⟩ := List.exists_mem_of_ne_nil ms hne
    obtain ⟨c, hc⟩ := List.exists_mem_of_ne_nil _ (h m hm).conjuncts.1
    exact List.ne_nil_of_mem (List.mem_flatMap.mpr ⟨m, hm, hc⟩)
  · obtain ⟨m, hm, hc⟩ := List.mem_flatMap.mp hc
    exact (h m hm).conjuncts.2 c hc

lemma Joined.anyOf (h : ∀ m ∈ ms, m.Joined t) : (anyOf ms).Joined t := by
  refine .disjunction fun c hc => ?_
  obtain ⟨m, hm, hc⟩ := List.mem_flatMap.mp hc
  exact (h m hm).disjuncts c hc

lemma exposes_allOf_iff (hne : ms ≠ []) (h : ∀ m ∈ ms, m.Joined t) :
    (allOf ms).Exposes t q ↔ (allOf ms).hasMatches t = true ∧ ∃ c ∈ ms, c.Exposes t q := by
  refine exposes_flatMap_iff (.conjunction _) (fun c _ => c.conjuncts_eq_or_combines) ?_
  intro hm c hc _ _ _
  have hall : (allOf ms).hasMatches t = true := hm
  rw [hasMatches_allOf hne (conjunction_nil_notMem h), List.all_eq_true] at hall
  exact hall c hc

lemma exposes_anyOf_iff (ms : List Matcher) :
    (anyOf ms).Exposes t q ↔ (anyOf ms).hasMatches t = true ∧ ∃ c ∈ ms, c.Exposes t q :=
  exposes_flatMap_iff (.disjunction _) (fun c _ => c.disjuncts_eq_or_combines)
    fun _ c _ d hd hhas => (c.hasMatches_iff_disjuncts t).mpr ⟨d, hd, hhas⟩

lemma Joined.and_eq (h : m.Joined t) (n : Matcher) : m.and n = Matcher.allOf [m, n] := by
  cases h <;> rfl

lemma Joined.or_eq (h : m.Joined t) (n : Matcher) : m.or n = Matcher.anyOf [m, n] := by
  cases h <;> rfl

end Matcher

namespace Formula

variable {t : Text} {f : Formula} {q : CharRange}

def operands : Formula → List Formula
  | leaf _ | named _ => []
  | inverse f | invert f => [f]
  | and f g | or f g => [f, g]
  | allOf fs | anyOf fs => fs

mutual

/-- The truth value of a formula whose leaves are valued by `val`. -/
def holds (val : Matcher → Bool) : Formula → Bool
  | leaf m => val m
  | named _ => false
  | inverse f | invert f => !holds val f
  | and f g => holds val f && holds val g
  | or f g => holds val f || holds val g
  | allOf fs => (holdsEach val fs).all id
  | anyOf fs => (holdsEach val fs).any id

def holdsEach (val : Matcher → Bool) : List Formula → List Bool
  | [] => []
  | f :: fs => holds val f :: holdsEach val fs

end

mutual

/-- The leaves of a formula at any depth. -/
def leaves : Formula → List Matcher
  | leaf m => [m]
  | named _ => []
  | inverse f | invert f => leaves f
  | and f g | or f g => leaves f ++ leaves g
  | allOf fs | anyOf fs => leavesEach fs

def leavesEach : List Formula → List Matcher
  | [] => []
  | f :: fs => leaves f ++ leavesEach fs

end

/-- A formula of conjunctions and disjunctions over regular expressions whose matches in a text are
in order. A conjunction of a list has parts. -/
inductive Joined (t : Text) : Formula → Prop
  | regex {r : Regex} (h : r.InOrder t) : Joined t (.leaf (.regex r))
  | and {f g : Formula} (hf : Joined t f) (hg : Joined t g) : Joined t (.and f g)
  | or {f g : Formula} (hf : Joined t f) (hg : Joined t g) : Joined t (.or f g)
  | allOf {fs : List Formula} (hne : fs ≠ []) (h : ∀ f ∈ fs, Joined t f) : Joined t (.allOf fs)
  | anyOf {fs : List Formula} (h : ∀ f ∈ fs, Joined t f) : Joined t (.anyOf fs)

/-- A match of a leaf such that every formula around the leaf has a match. -/
inductive Exposes (t : Text) : Formula → CharRange → Prop
  | regex {r : Regex} {q : CharRange} (h : q ∈ (r.occurrences t).map (·.whole)) :
      Exposes t (.leaf (.regex r)) q
  | operand {f g : Formula} {q : CharRange} (hhas : f.matcher.hasMatches t = true)
      (hg : g ∈ f.operands) (hq : Exposes t g q) : Exposes t f q

lemma matcherEach_eq_map (fs : List Formula) : matcherEach fs = fs.map matcher := by
  induction fs with
  | nil => rfl
  | cons f fs ih => rw [matcherEach, ih, List.map_cons]

lemma holdsEach_eq_map (val : Matcher → Bool) (fs : List Formula) :
    holdsEach val fs = fs.map (holds val) := by
  induction fs with
  | nil => rfl
  | cons f fs ih => rw [holdsEach, ih, List.map_cons]

lemma leavesEach_eq_flatMap (fs : List Formula) : leavesEach fs = fs.flatMap leaves := by
  induction fs with
  | nil => rfl
  | cons f fs ih => rw [leavesEach, ih, List.flatMap_cons]

lemma exposes_iff_of_operands (hleaf : ∀ m, f ≠ .leaf m) :
    f.Exposes t q ↔ f.matcher.hasMatches t = true ∧ ∃ g ∈ f.operands, g.Exposes t q := by
  constructor
  · rintro (_ | ⟨hhas, hg, hq⟩)
    · exact absurd rfl (hleaf _)
    · exact ⟨hhas, _, hg, hq⟩
  · rintro ⟨hhas, g, hg, hq⟩
    exact .operand hhas hg hq

lemma Joined.matcher (h : f.Joined t) : f.matcher.Joined t := by
  induction h with
  | regex h => exact .regex h
  | @and f g _ _ ihf ihg =>
    rw [Formula.matcher, ihf.and_eq]
    exact .allOf (by simp) (by simp [ihf, ihg])
  | @or f g _ _ ihf ihg =>
    rw [Formula.matcher, ihf.or_eq]
    exact .anyOf (by simp [ihf, ihg])
  | @allOf fs hne _ ih =>
    rw [Formula.matcher, matcherEach_eq_map]
    exact .allOf (by simpa using hne) (by simpa using ih)
  | @anyOf fs _ ih =>
    rw [Formula.matcher, matcherEach_eq_map]
    exact .anyOf (by simpa using ih)

lemma hasMatches_matcher (h : f.Joined t) :
    f.matcher.hasMatches t = f.holds (·.hasMatches t) := by
  induction h with
  | regex _ => rfl
  | @and f g hf hg ihf ihg =>
    rw [Formula.matcher, holds, ← ihf, ← ihg,
      Matcher.hasMatches_and hf.matcher.ne_conjunction_nil hg.matcher.ne_conjunction_nil]
  | @or f g hf _ ihf ihg =>
    rw [Formula.matcher, holds, ← ihf, ← ihg, Matcher.hasMatches_or]
  | @allOf fs hne h ih =>
    have hjoined : ∀ m ∈ fs.map Formula.matcher, m.Joined t := by
      simpa using fun f hf => (h f hf).matcher
    rw [Formula.matcher, matcherEach_eq_map, holds, holdsEach_eq_map,
      Matcher.hasMatches_allOf (by simpa using hne) (Matcher.conjunction_nil_notMem hjoined),
      ← List.map_congr_left ih]
    simp [Function.comp_def]
  | @anyOf fs _ ih =>
    rw [Formula.matcher, matcherEach_eq_map, holds, holdsEach_eq_map, Matcher.hasMatches_anyOf,
      ← List.map_congr_left ih]
    simp [Function.comp_def]

/-- A formula's matcher exposes what the formula does, whatever it takes in. -/
lemma exposes_matcher_iff (h : f.Joined t) : f.matcher.Exposes t q ↔ f.Exposes t q := by
  induction h with
  | regex _ =>
    constructor
    · rintro (hq | ⟨hm, -⟩)
      · exact .regex hq
      · cases hm
    · rintro (hq | ⟨-, hg, -⟩)
      · exact .regex hq
      · cases hg
  | @and f g hf hg ihf ihg =>
    rw [exposes_iff_of_operands (by rintro _ ⟨⟩), Formula.matcher, hf.matcher.and_eq,
      Matcher.exposes_allOf_iff (by simp) (by simp [hf.matcher, hg.matcher])]
    simp [operands, ihf, ihg]
  | @or f g hf _ ihf ihg =>
    rw [exposes_iff_of_operands (by rintro _ ⟨⟩), Formula.matcher, hf.matcher.or_eq,
      Matcher.exposes_anyOf_iff]
    simp [operands, ihf, ihg]
  | @allOf fs hne h ih =>
    have hjoined : ∀ m ∈ fs.map Formula.matcher, m.Joined t := by
      simpa using fun f hf => (h f hf).matcher
    rw [exposes_iff_of_operands (by rintro _ ⟨⟩), Formula.matcher, matcherEach_eq_map,
      Matcher.exposes_allOf_iff (by simpa using hne) hjoined]
    simp only [List.mem_map, exists_exists_and_eq_and, operands]
    exact and_congr_right fun _ => exists_congr fun g => and_congr_right fun hg => ih g hg
  | @anyOf fs _ ih =>
    rw [exposes_iff_of_operands (by rintro _ ⟨⟩), Formula.matcher, matcherEach_eq_map,
      Matcher.exposes_anyOf_iff]
    simp only [List.mem_map, exists_exists_and_eq_and, operands]
    exact and_congr_right fun _ => exists_congr fun g => and_congr_right fun hg => ih g hg

/-- A formula's matcher breaks no search off if none of its leaves does. -/
lemma Joined.steady_matcher (h : f.Joined t) (hleaves : ∀ m ∈ f.leaves, Matcher.Steady t m) :
    Matcher.Steady t f.matcher := by
  induction h with
  | regex _ => exact hleaves _ (List.mem_singleton_self _)
  | and _ _ ihf ihg =>
    obtain ⟨hf, hg⟩ := List.forall_mem_append.mp hleaves
    exact (ihf hf).and (ihg hg)
  | or _ _ ihf ihg =>
    obtain ⟨hf, hg⟩ := List.forall_mem_append.mp hleaves
    exact (ihf hf).or (ihg hg)
  | allOf _ _ ih =>
    rw [leaves, leavesEach_eq_flatMap, List.forall_mem_flatMap] at hleaves
    rw [Formula.matcher, matcherEach_eq_map]
    exact .allOf (List.forall_mem_map.mpr fun g hg => ih g hg (hleaves g hg))
  | anyOf _ ih =>
    rw [leaves, leavesEach_eq_flatMap, List.forall_mem_flatMap] at hleaves
    rw [Formula.matcher, matcherEach_eq_map]
    exact .anyOf (List.forall_mem_map.mpr fun g hg => ih g hg (hleaves g hg))

/-- Where a formula of conjunctions and disjunctions over regular expressions matches: just if it
holds of which leaves do. It then shows matches and locates one of its leaves' exposed matches. None
that is exposed starts further left, and so none that is shown. None of these searches is broken off
if no leaf breaks off. -/
theorem locate_leftmost_exposed (h : f.Joined t) :
    f.matcher.hasMatches t = f.holds (·.hasMatches t) ∧
      (f.matcher.hasMatches t = true ↔ f.matcher.matchRanges t ≠ []) ∧
      f.matcher.hasMatches t = (f.matcher.locate t).isSome ∧
      (∀ first, f.matcher.locate t = some first →
        (∀ g ∈ f.matcher.matchRanges t, first.start ≤ g.content.start) ∧
          f.Exposes t first ∧ ∀ q, f.Exposes t q → first.start ≤ q.start) ∧
      ((∀ m ∈ f.leaves, Matcher.Steady t m) →
        ∀ request, (∀ template, request ≠ .replace template) →
          f.matcher.breaksOff t request = false) := by
  have hm := h.matcher
  refine ⟨hasMatches_matcher h, Matcher.hasMatches_iff_matchRanges_ne_nil hm,
    f.matcher.hasMatches_eq_isSome_locate t, fun first hfirst => ⟨fun g hg => ?_, ?_, fun q hq => ?_⟩,
    fun hleaves _ hrequest => (h.steady_matcher hleaves).breaksOff_eq_false hrequest⟩
  · rw [Matcher.matchRanges_eq_map_shown hm] at hg
    obtain ⟨q, hq, rfl⟩ := List.mem_map.mp hg
    exact Matcher.start_le_of_exposes hm hfirst (Matcher.exposes_of_shown hm hq)
  · exact (exposes_matcher_iff h).mp (Matcher.exposes_of_locate hm hfirst)
  · exact Matcher.start_le_of_exposes hm hfirst ((exposes_matcher_iff h).mpr hq)

/-- In `bca` the match of `b` is the leftmost one that is exposed. -/
theorem locate_leftmost_exposed_letters :
    let f : Formula := .or (.and (.leaf (.regex (.letter 'a'))) (.leaf (.regex (.letter 'b'))))
      (.leaf (.regex (.letter 'c')))
    f.Joined ['b', 'c', 'a'] ∧ f.holds (·.hasMatches ['b', 'c', 'a']) = true ∧
      f.matcher.matchRanges ['b', 'c', 'a'] ≠ [] ∧ f.Exposes ['b', 'c', 'a'] (.ofBounds 0 1) ∧
      f.matcher.breaksOff ['b', 'c', 'a'] .hasMatches = false := by
  intro f
  have hletter (c : Char) : Joined ['b', 'c', 'a'] (.leaf (.regex (.letter c))) :=
    .regex (Regex.inOrder_of_not_canStepBack rfl _)
  have hf : f.Joined ['b', 'c', 'a'] := .or (.and (hletter 'a') (hletter 'b')) (hletter 'c')
  have hsteady (c : Char) : Matcher.Steady ['b', 'c', 'a'] (.regex (.letter c)) :=
    .of_not_canBreak rfl _
  have hleaves : ∀ m ∈ f.leaves, Matcher.Steady ['b', 'c', 'a'] m := by
    simp [f, leaves, hsteady]
  obtain ⟨hholds, hshown, -, hlocated, hreturns⟩ := locate_leftmost_exposed hf
  have hm : f.matcher.hasMatches ['b', 'c', 'a'] = true := by decide +kernel
  have hlocate : f.matcher.locate ['b', 'c', 'a'] = some (.ofBounds 0 1) := by decide +kernel
  exact ⟨hf, hholds ▸ hm, hshown.mp hm, (hlocated _ hlocate).2.1, hreturns hleaves _ (by simp)⟩

end Formula

end PatternAlgebra
