import PatternAlgebra.Matcher.Algebra
import PatternAlgebra.Proofs.Matcher.Locate

/-! Which built matchers have a match. A disjunction has one just if one of its parts has, whatever
it takes in. A conjunction has one just if each of its parts has, unless one of them is a
conjunction without parts: that one has no match by itself, but nothing is left of it where its
parts are taken in. -/
namespace PatternAlgebra.Matcher

variable {m n : Matcher} {ms : List Matcher} {t : Text}

lemma hasMatches_disjunction (ms : List Matcher) (t : Text) :
    (disjunction ms).hasMatches t = true ↔ ∃ m ∈ ms, m.hasMatches t = true := by
  rw [hasMatches, anyHasMatches_eq_any, List.any_eq_true]

lemma hasMatches_iff_disjuncts (m : Matcher) (t : Text) :
    m.hasMatches t = true ↔ ∃ c ∈ m.disjuncts, c.hasMatches t = true := by
  cases m with
  | disjunction ms => exact hasMatches_disjunction ms t
  | _ => simp [disjuncts]

lemma forall_mem_conjuncts {P : Matcher → Prop} (hP : ∀ ms, P (conjunction ms) → ∀ c ∈ ms, P c)
    (h : P m) : ∀ c ∈ m.conjuncts, P c := by
  cases m with
  | conjunction ms => exact hP ms h
  | _ => simpa [conjuncts] using h

lemma forall_mem_disjuncts {P : Matcher → Prop} (hP : ∀ ms, P (disjunction ms) → ∀ c ∈ ms, P c)
    (h : P m) : ∀ c ∈ m.disjuncts, P c := by
  cases m with
  | disjunction ms => exact hP ms h
  | _ => simpa [disjuncts] using h

lemma hasMatches_anyOf (ms : List Matcher) (t : Text) :
    (anyOf ms).hasMatches t = ms.any (·.hasMatches t) := by
  rw [Bool.eq_iff_iff, List.any_eq_true, hasMatches_iff_disjuncts]
  simp only [anyOf, disjuncts, List.mem_flatMap]
  constructor
  · rintro ⟨d, ⟨c, hc, hd⟩, hhas⟩
    exact ⟨c, hc, (c.hasMatches_iff_disjuncts t).mpr ⟨d, hd, hhas⟩⟩
  · rintro ⟨c, hc, hhas⟩
    obtain ⟨d, hd, hhas⟩ := (c.hasMatches_iff_disjuncts t).mp hhas
    exact ⟨d, ⟨c, hc, hd⟩, hhas⟩

lemma hasMatches_nothing (t : Text) : nothing.hasMatches t = false := by
  rw [hasMatches_eq_isSome_locate, locate, Option.isSome_none]

lemma hasMatches_whole (t : Text) : whole.hasMatches t = true := by
  rw [hasMatches_eq_isSome_locate, locate, Option.isSome_some]

lemma hasMatches_or (m n : Matcher) (t : Text) :
    (m.or n).hasMatches t = (m.hasMatches t || n.hasMatches t) := by
  have hany : (anyOf [m, n]).hasMatches t = (m.hasMatches t || n.hasMatches t) := by
    simp [hasMatches_anyOf]
  cases m with
  | nothing => rw [Matcher.or, hasMatches_nothing, Bool.false_or]
  | whole => rw [Matcher.or, hasMatches_whole, Bool.true_or]
  | _ => exact hany

lemma hasMatches_foldl_or (m : Matcher) (ms : List Matcher) (t : Text) :
    (ms.foldl Matcher.or m).hasMatches t = (m.hasMatches t || ms.any (·.hasMatches t)) := by
  induction ms generalizing m with
  | nil => simp
  | cons n ms ih => rw [List.foldl_cons, ih, hasMatches_or, List.any_cons, Bool.or_assoc]

/-! ### Conjunctions -/

lemma hasMatches_conjunction_nil (t : Text) : (conjunction []).hasMatches t = false := by
  rw [← Bool.not_eq_true, hasMatches_conjunction]
  simp

/-- A conjunction without parts has no match although each of its parts has one. -/
lemma hasMatches_iff_conjuncts (h : m ≠ conjunction []) :
    m.hasMatches t = true ↔ ∀ c ∈ m.conjuncts, c.hasMatches t = true := by
  cases m with
  | conjunction ms =>
    have hne : ms ≠ [] := fun hnil => h (congrArg conjunction hnil)
    rw [hasMatches_conjunction, conjuncts, and_iff_right hne]
  | _ => simp [conjuncts]

lemma conjuncts_ne_nil_iff : m.conjuncts ≠ [] ↔ m ≠ conjunction [] := by
  cases m <;> simp [conjuncts]

/-- What a conjunction takes in speaks for all of its parts but for those that are conjunctions
without parts. -/
lemma hasMatches_allOf_eq_true_iff (ms : List Matcher) (t : Text) :
    (allOf ms).hasMatches t = true ↔
      (∃ m ∈ ms, m ≠ conjunction []) ∧ ∀ m ∈ ms, m ≠ conjunction [] → m.hasMatches t = true := by
  have hparts : ms.flatMap conjuncts ≠ [] ↔ ∃ m ∈ ms, m ≠ conjunction [] := by
    simp only [ne_eq, List.flatMap_eq_nil_iff, not_forall, exists_prop]
    exact exists_congr fun m => and_congr_right fun _ => conjuncts_ne_nil_iff
  rw [allOf, hasMatches_conjunction, hparts, List.forall_mem_flatMap]
  refine and_congr_right fun _ => forall₂_congr fun m _ => ?_
  by_cases hm : m = conjunction []
  · simp [hm, conjuncts]
  · simp [hm, hasMatches_iff_conjuncts hm]

lemma hasMatches_allOf (hne : ms ≠ []) (h : conjunction [] ∉ ms) :
    (allOf ms).hasMatches t = ms.all (·.hasMatches t) := by
  have hproper : ∀ m ∈ ms, m ≠ conjunction [] := by
    rintro m hm rfl
    exact h hm
  obtain ⟨m, hm⟩ := List.exists_mem_of_ne_nil ms hne
  rw [Bool.eq_iff_iff, hasMatches_allOf_eq_true_iff, List.all_eq_true,
    and_iff_right ⟨m, hm, hproper m hm⟩]
  exact forall₂_congr fun m hm => forall_prop_of_true (hproper m hm)

lemma hasMatches_and (hm : m ≠ conjunction []) (hn : n ≠ conjunction []) :
    (m.and n).hasMatches t = (m.hasMatches t && n.hasMatches t) := by
  have hall : (allOf [m, n]).hasMatches t = (m.hasMatches t && n.hasMatches t) := by
    rw [hasMatches_allOf (by simp) (by simp [hm.symm, hn.symm])]
    simp
  cases m with
  | nothing => rw [Matcher.and, hasMatches_nothing, Bool.false_and]
  | whole => rw [Matcher.and, hasMatches_whole, Bool.true_and]
  | _ => exact hall

lemma and_ne_conjunction_nil (hm : m ≠ conjunction []) (hn : n ≠ conjunction []) :
    m.and n ≠ conjunction [] := by
  have hall : allOf [m, n] ≠ conjunction [] := by
    have hparts := conjuncts_ne_nil_iff.mpr hm
    simp [allOf, hparts]
  cases m with
  | nothing => simp [Matcher.and]
  | whole => exact hn
  | _ => exact hall

lemma hasMatches_foldl_and (hm : m ≠ conjunction []) (h : conjunction [] ∉ ms) :
    (ms.foldl Matcher.and m).hasMatches t = (m.hasMatches t && ms.all (·.hasMatches t)) := by
  induction ms generalizing m with
  | nil => simp
  | cons n ms ih =>
    have hn : n ≠ conjunction [] := (List.ne_of_not_mem_cons h).symm
    rw [List.foldl_cons, ih (and_ne_conjunction_nil hm hn) (List.not_mem_of_not_mem_cons h),
      hasMatches_and hm hn, List.all_cons, Bool.and_assoc]

/-- A list with a matcher that has no match is not a list of matchers that have one. -/
lemma all_hasMatches_of_conjunction_nil (h : conjunction [] ∈ ms) (t : Text) :
    ms.all (·.hasMatches t) = false := by
  rw [List.all_eq_false]
  exact ⟨_, h, by simp [hasMatches_conjunction_nil]⟩

lemma hasMatches_conjunction_eq_all (hne : ms ≠ []) (t : Text) :
    (conjunction ms).hasMatches t = ms.all (·.hasMatches t) := by
  rw [Bool.eq_iff_iff, hasMatches_conjunction, and_iff_right hne, List.all_eq_true]

/-- A conjunction of at least one matcher that takes in the parts of conjunctions among them has a
match just if each of them has one, and just if it has one with them as its parts, unless one of
them is a conjunction without parts and the rest of them have a match. The same is true of two
matchers, of which a trivial first one may decide which matcher their conjunction is. -/
theorem hasMatches_allOf_iff (ms : List Matcher) (t : Text) :
    ((allOf ms).hasMatches t = true ↔
        (∃ m ∈ ms, m ≠ conjunction []) ∧ ∀ m ∈ ms, m ≠ conjunction [] → m.hasMatches t = true) ∧
      (ms ≠ [] →
        ((allOf ms).hasMatches t = ms.all (·.hasMatches t) ↔
            ¬(conjunction [] ∈ ms ∧ (allOf ms).hasMatches t = true)) ∧
          ((allOf ms).hasMatches t = (conjunction ms).hasMatches t ↔
            ¬(conjunction [] ∈ ms ∧ (allOf ms).hasMatches t = true))) ∧
      ∀ m n : Matcher, (m.and n).hasMatches t = (m.hasMatches t && n.hasMatches t) ↔
        ¬((m = conjunction [] ∨ n = conjunction []) ∧ (m.and n).hasMatches t = true) := by
  have hlist (hne : ms ≠ []) : (allOf ms).hasMatches t = ms.all (·.hasMatches t) ↔
      ¬(conjunction [] ∈ ms ∧ (allOf ms).hasMatches t = true) := by
    by_cases hnil : conjunction [] ∈ ms
    · simp [hnil, all_hasMatches_of_conjunction_nil hnil]
    · simp [hnil, hasMatches_allOf hne hnil]
  refine ⟨hasMatches_allOf_eq_true_iff ms t, fun hne => ⟨hlist hne, ?_⟩, fun m n => ?_⟩
  · rw [hasMatches_conjunction_eq_all hne, hlist hne]
  · by_cases hnil : m = conjunction [] ∨ n = conjunction []
    · have hfalse : (m.hasMatches t && n.hasMatches t) = false := by
        rcases hnil with rfl | rfl <;> simp [hasMatches_conjunction_nil]
      simp [hnil, hfalse]
    · obtain ⟨hm, hn⟩ := not_or.mp hnil
      simp [hnil, hasMatches_and hm hn]

/-- In `ab` both `a` and the gap that `b` leaves have a match, so the conjunction that takes in the
one of `a` and `b` has one. -/
theorem hasMatches_allOf_iff_letters :
    let ms := [conjunction [regex (.letter 'a'), regex (.letter 'b')], inversion (regex (.letter 'b'))]
    ms ≠ [] ∧ conjunction [] ∉ ms ∧
      (allOf ms).hasMatches ['a', 'b'] = ms.all (·.hasMatches ['a', 'b']) ∧
      (allOf ms).hasMatches ['a', 'b'] = true := by
  intro ms
  have hne : ms ≠ [] := by simp [ms]
  have hproper : conjunction [] ∉ ms := by simp [ms]
  obtain ⟨hsplice, -⟩ := (hasMatches_allOf_iff ms ['a', 'b']).2.1 hne
  exact ⟨hne, hproper, hsplice.mpr fun h => hproper h.1, by decide +kernel⟩

/-- A conjunction without parts has no match in `a`, but next to `a` nothing is left of it. -/
theorem hasMatches_allOf_conjunction_nil :
    let ms := [allOf [], regex (.letter 'a')]
    (allOf []).hasMatches ['a'] = false ∧ ms.all (·.hasMatches ['a']) = false ∧
      (allOf ms).hasMatches ['a'] = true ∧ (conjunction ms).hasMatches ['a'] = false ∧
      ((allOf []).and (regex (.letter 'a'))).hasMatches ['a'] = true := by
  decide +kernel

end PatternAlgebra.Matcher
