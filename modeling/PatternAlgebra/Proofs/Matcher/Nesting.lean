import PatternAlgebra.Proofs.Matcher.Agreement
import PatternAlgebra.Proofs.Matcher.Algebra

/-! Composing step by step. A combination that takes the children of another one in answers as one that
keeps it as its first child: the matches that the inner one has kept are kept again, in whatever order
they come, and go against what follows like the candidates they were chosen from. -/
namespace PatternAlgebra

open Fragment

lemma CharRange.earliest_append (rs qs : List CharRange) :
    earliest (rs ++ qs) = earliest ((earliest rs).toList ++ qs) := by
  cases rs with
  | nil => rfl
  | cons r rs => simp [earliest, List.foldl_append]

/-- Where nothing is found there is no further search that could be broken off. -/
lemma Engine.Program.breaksAtLast_of_missing {p : Program} {t : Text}
    (hfirst : p.breaksAtFirst t = false) (hmissing : (p.search t.toArray 0).toOption = none) :
    p.breaksAtLast t = false := by
  rw [breaksAtFirst] at hfirst
  cases hsearch : p.search t.toArray 0 with
  | found m => simp [hsearch, Answer.toOption] at hmissing
  | missing => simp [breaksAtLast, searchText, searchAll, hsearch]
  | broken => simpa [breaksAtLast, searchText, searchAll, hsearch, Answer.isBroken] using hfirst

namespace Matcher

variable {t : Text} {m n c : Matcher} {ms xs ys : List Matcher}

/-- Matchers that answer every question about a target alike: whether there is a match, where the
first one is, what is shown and counted, and whether the answer is broken off. -/
structure Alike (t : Text) (m n : Matcher) : Prop where
  hasMatches : m.hasMatches t = n.hasMatches t
  locate : m.locate t = n.locate t
  iterate {σ : Type} (selection : Selection) (visit : Visitor σ) (s : σ) :
    m.iterate t selection visit s = n.iterate t selection visit s
  canBreak : m.canBreak = n.canBreak
  hasBreaks : m.hasBreaks t = n.hasBreaks t
  locateBreaks : m.locateBreaks t = n.locateBreaks t
  iterateBreaks {σ : Type} (selection : Selection) (visit : Visitor σ) (s : σ) :
    m.iterateBreaks t selection visit s = n.iterateBreaks t selection visit s

/-- Matchers made of regular expressions, by conjunctions of at least one matcher and by
disjunctions. -/
inductive Composed : Matcher → Prop
  | regex (r : Regex) : Composed (.regex r)
  | conjunction {ms : List Matcher} (h : ∀ m ∈ ms, Composed m) (hne : ms ≠ []) :
      Composed (.conjunction ms)
  | disjunction {ms : List Matcher} (h : ∀ m ∈ ms, Composed m) : Composed (.disjunction ms)

/-- A matcher without a match that shows none and, unless the search for one is broken off, breaks off
nothing else. -/
structure Quiet (t : Text) (m : Matcher) : Prop where
  shown : matchedRanges (m.ranges t .matchesOnly) = []
  iterateBreaks {σ : Type} (hbreaks : m.hasBreaks t = false) (selection : Selection)
    (visit : Visitor σ) (s : σ) : m.iterateBreaks t selection visit s = false

lemma quiet_regex {r : Regex} (hnone : (regex r).hasMatches t = false) : (regex r).Quiet t := by
  have hlocate : (regex r).locate t = none := by
    rwa [hasMatches_eq_isSome_locate, Option.isSome_eq_false_iff, Option.isNone_iff_eq_none] at hnone
  have hshown : matchedRanges ((regex r).ranges t .matchesOnly) = [] := by
    rw [(advances_regex r t).locate] at hlocate
    exact List.head?_eq_none_iff.mp hlocate
  refine ⟨hshown, fun hbreaks selection visit s => ?_⟩
  have hmissing : (r.program.search t.toArray 0).toOption = none := by
    rw [matchedRanges_regex, Regex.occurrences_eq_inText] at hshown
    rw [← Regex.searchText_head?, List.head?_eq_none_iff]
    simpa using hshown
  have hfirst : r.program.breaksAtFirst t = false := by
    simpa [Matcher.hasBreaks, Matcher.locateBreaks, Regex.locateBreaks] using hbreaks
  rw [Matcher.iterateBreaks, Regex.iterateBreaks,
    Engine.Program.breaksAtLast_of_missing hfirst hmissing, Bool.and_false, Bool.false_and]

lemma quiet_combination (h : Combines m ms) (hnone : m.hasMatches t = false) : m.Quiet t where
  shown := by rw [shown_combination h, hnone, if_neg Bool.false_ne_true]
  iterateBreaks hbreaks selection visit s := by
    rw [iterateBreaks_combination h, hbreaks, hnone, Bool.false_and, Bool.false_and, Bool.or_false]

namespace Composed

lemma quiet (h : Composed m) (hnone : m.hasMatches t = false) : m.Quiet t := by
  cases h with
  | regex r => exact quiet_regex hnone
  | conjunction _ _ => exact quiet_combination (.conjunction _) hnone
  | disjunction _ => exact quiet_combination (.disjunction _) hnone

lemma of_mem_disjuncts (h : Composed m) : ∀ c ∈ m.disjuncts, Composed c := by
  cases h with
  | disjunction h => exact h
  | regex r => simpa [disjuncts] using Composed.regex r
  | conjunction h hne => simpa [disjuncts] using Composed.conjunction h hne

lemma conjuncts_ne_nil (h : Composed m) : m.conjuncts ≠ [] := by
  cases h with
  | conjunction _ hne => exact hne
  | _ => simp [conjuncts]

end Composed

/-! ### One combination inside another -/

/-- What the inner combination keeps is kept again, in its order, and stands against the candidates
that follow as before. -/
lemma merged_nested (hshown : matchedRanges (c.ranges t .matchesOnly) = merged xs t) :
    merged (c :: ys) t = merged (xs ++ ys) t := by
  set kept := (candidates xs t).foldl Union.keep []
  have hperm : (CharRange.sort kept).Perm kept := List.mergeSort_perm _ _
  have hkept : (CharRange.sort kept).foldl Union.keep [] = CharRange.sort kept := by
    have hapart : kept.Pairwise fun r q => ¬r.Conflict q :=
      Union.pairwise_foldl_keep List.Pairwise.nil _
    exact Union.foldl_keep_of_pairwise (hperm.symm.pairwise hapart fun hc hs => hc hs.symm)
  have hnested : (candidates (c :: ys) t).foldl Union.keep [] =
      (candidates ys t).foldl Union.keep (CharRange.sort kept) := by
    rw [candidates_cons, hshown, List.foldl_append]
    exact congrArg ((candidates ys t).foldl Union.keep) hkept
  have hflat : (candidates (xs ++ ys) t).foldl Union.keep [] =
      (candidates ys t).foldl Union.keep kept := by
    rw [candidates_append, List.foldl_append]
  rw [merged, merged, hnested, hflat]
  exact CharRange.sort_eq_of_perm (Union.perm_foldl_keep hperm _)

lemma earliest_nested (hlocate : c.locate t = CharRange.earliest (xs.filterMap (·.locate t))) :
    CharRange.earliest ((c :: ys).filterMap (·.locate t)) =
      CharRange.earliest ((xs ++ ys).filterMap (·.locate t)) := by
  rw [List.filterMap_append, CharRange.earliest_append, ← hlocate]
  cases hc : c.locate t <;> simp [hc]

/-- An inner combination whose own question is not broken off breaks off what its children do. -/
lemma iterateBreaks_nested (h : Combines c xs) (hbreaks : c.hasBreaks t = false)
    (hquiet : c.hasMatches t = false → ∀ x ∈ xs, x.hasBreaks t = false ∧ x.Quiet t)
    (selection : Selection) :
    c.iterateBreaks t (Union.collecting selection) Union.keeper [] =
      xs.any (·.iterateBreaks t (Union.collecting selection) Union.keeper []) := by
  have hvisible : Union.isVisible (Union.collecting selection) = true := rfl
  rw [iterateBreaks_combination h, hbreaks, hvisible, Bool.false_or, Bool.and_true]
  cases hc : c.hasMatches t with
  | true => rfl
  | false =>
    refine (List.any_eq_false.mpr fun x hx => ?_).symm
    obtain ⟨hx, hxq⟩ := hquiet hc x hx
    exact ne_true_of_eq_false (hxq.iterateBreaks hx _ _ _)

/-- The stream of a nested combination is broken off as that of the flat one is. -/
lemma iterateBreaks_eq_of_nested (hflat : Combines m (xs ++ ys)) (hnested : Combines n (c :: ys))
    (hhas : m.hasMatches t = n.hasMatches t) (hbreaks : m.hasBreaks t = n.hasBreaks t)
    (hinner : n.hasBreaks t = false → n.hasMatches t = true → ∀ selection : Selection,
      c.iterateBreaks t (Union.collecting selection) Union.keeper [] =
        xs.any (·.iterateBreaks t (Union.collecting selection) Union.keeper []))
    {σ : Type} (selection : Selection) (visit : Visitor σ) (s : σ) :
    m.iterateBreaks t selection visit s = n.iterateBreaks t selection visit s := by
  rw [iterateBreaks_combination hflat, iterateBreaks_combination hnested, hhas, hbreaks]
  cases hb : n.hasBreaks t with
  | true => rw [Bool.true_or, Bool.true_or]
  | false =>
    cases hm : n.hasMatches t with
    | false => rfl
    | true => rw [List.any_append, List.any_cons, hinner hb hm selection]

lemma anyCanBreak_eq_any (ms : List Matcher) : anyCanBreak ms = ms.any canBreak := by
  induction ms with
  | nil => rw [anyCanBreak, List.any_nil]
  | cons m ms ih => rw [anyCanBreak, List.any_cons, ih]

/-- The children of a disjunction without a match have none, and all of them have been asked. -/
lemma not_hasMatches_of_disjunction (h : (disjunction xs).hasMatches t = false) :
    ∀ x ∈ xs, x.hasMatches t = false := by
  rw [Matcher.hasMatches, anyHasMatches_eq_any, List.any_eq_false] at h
  exact fun x hx => eq_false_of_ne_true (h x hx)

lemma not_hasBreaks_of_disjunction (h : (disjunction xs).hasMatches t = false)
    (hbreaks : (disjunction xs).hasBreaks t = false) : ∀ x ∈ xs, x.hasBreaks t = false := by
  have hmore : ∀ x ∈ xs, x.hasBreaks t = false → (!x.hasMatches t) = true := fun x hx _ => by
    rw [not_hasMatches_of_disjunction h x hx, Bool.not_false]
  rw [hasBreaks_disjunction, askedInTurn_eq_any hmore, List.any_eq_false] at hbreaks
  exact fun x hx => eq_false_of_ne_true (hbreaks x hx)

lemma shown_disjunction (hxs : ∀ x ∈ xs, x.hasMatches t = false → x.Quiet t) :
    matchedRanges ((disjunction xs).ranges t .matchesOnly) = merged xs t := by
  rw [shown_combination (.disjunction xs)]
  cases h : (disjunction xs).hasMatches t with
  | true => rfl
  | false =>
    have hcandidates : candidates xs t = [] := List.flatMap_eq_nil_iff.mpr fun x hx =>
      (hxs x hx (not_hasMatches_of_disjunction h x hx)).shown
    rw [if_neg Bool.false_ne_true, merged, hcandidates, List.foldl_nil, CharRange.sort,
      List.mergeSort_nil]

theorem alike_disjunction (hxs : ∀ x ∈ xs, x.hasMatches t = false → x.Quiet t)
    (ys : List Matcher) : Alike t (disjunction (xs ++ ys)) (disjunction (disjunction xs :: ys)) := by
  have hinner : (disjunction xs).hasMatches t = xs.any (·.hasMatches t) := by
    rw [Matcher.hasMatches, anyHasMatches_eq_any]
  have hhas : (disjunction (xs ++ ys)).hasMatches t =
      (disjunction (disjunction xs :: ys)).hasMatches t := by
    rw [Matcher.hasMatches, Matcher.hasMatches, anyHasMatches_eq_any, anyHasMatches_eq_any,
      List.any_append, List.any_cons, hinner]
  have hbreaks : (disjunction (xs ++ ys)).hasBreaks t =
      (disjunction (disjunction xs :: ys)).hasBreaks t := by
    rw [hasBreaks_disjunction, hasBreaks_disjunction, askedInTurn_append, askedInTurn,
      hasBreaks_disjunction xs, hinner, List.not_any_eq_all_not]
  refine ⟨hhas, ?_, ?_, ?_, hbreaks, ?_, ?_⟩
  · rw [locate_disjunction, locate_disjunction, earliest_nested (locate_disjunction xs t)]
  · exact iterate_eq_of_merged_eq (.disjunction _) (.disjunction _) hhas fun _ =>
      (merged_nested (shown_disjunction hxs)).symm
  · simp only [Matcher.canBreak, anyCanBreak_eq_any, List.any_append, List.any_cons]
  · simp only [Matcher.locateBreaks, locateAnyBreaks_eq_any, List.any_append, List.any_cons]
  · refine iterateBreaks_eq_of_nested (.disjunction _) (.disjunction _) hhas hbreaks fun hb _ => ?_
    have hfirst : (disjunction xs).hasBreaks t = false := by
      rw [hasBreaks_disjunction, askedInTurn] at hb
      exact (Bool.or_eq_false_iff.mp hb).1
    refine iterateBreaks_nested (.disjunction xs) hfirst fun hnone x hx => ?_
    exact ⟨not_hasBreaks_of_disjunction hnone hfirst x hx,
      hxs x hx (not_hasMatches_of_disjunction hnone x hx)⟩

theorem alike_conjunction (hne : xs ≠ []) (ys : List Matcher) (t : Text) :
    Alike t (conjunction (xs ++ ys)) (conjunction (conjunction xs :: ys)) := by
  have hinner : (conjunction xs).hasMatches t = xs.all (·.hasMatches t) :=
    hasMatches_conjunction_eq_all hne t
  have hhas : (conjunction (xs ++ ys)).hasMatches t =
      (conjunction (conjunction xs :: ys)).hasMatches t := by
    rw [hasMatches_conjunction_eq_all (by simp [hne]), hasMatches_conjunction_eq_all (by simp),
      List.all_append, List.all_cons, hinner]
  have hlocateBreaks : (conjunction (xs ++ ys)).locateBreaks t =
      (conjunction (conjunction xs :: ys)).locateBreaks t := by
    rw [locateBreaks_conjunction, locateBreaks_conjunction, askedInTurn_append, askedInTurn,
      locateBreaks_conjunction xs, hinner]
  have hbreaks : (conjunction (xs ++ ys)).hasBreaks t =
      (conjunction (conjunction xs :: ys)).hasBreaks t := by
    rw [hasBreaks_conjunction, hlocateBreaks, hasBreaks_conjunction]
  -- where the nested one has a match its first child has one
  have hfirst (h : (conjunction (conjunction xs :: ys)).hasMatches t = true) :
      (conjunction xs).hasMatches t = true :=
    ((hasMatches_conjunction _ t).mp h).2 _ List.mem_cons_self
  refine ⟨hhas, ?_, ?_, ?_, hbreaks, hlocateBreaks, ?_⟩
  · rw [locate_combination (.conjunction _), locate_combination (.conjunction _), hhas]
    split_ifs with h
    · refine (earliest_nested ?_).symm
      rw [locate_combination (.conjunction xs), if_pos (hfirst h)]
    · rfl
  · refine iterate_eq_of_merged_eq (.conjunction _) (.conjunction _) hhas fun h => ?_
    refine (merged_nested ?_).symm
    rw [shown_combination (.conjunction xs), if_pos (hfirst h)]
  · simp only [Matcher.canBreak, anyCanBreak_eq_any, List.any_append, List.any_cons]
  · refine iterateBreaks_eq_of_nested (.conjunction _) (.conjunction _) hhas hbreaks fun hb h => ?_
    have hfirstBreaks : (conjunction xs).hasBreaks t = false := by
      rw [hasBreaks_conjunction, locateBreaks_conjunction, askedInTurn] at hb
      rw [hasBreaks_conjunction]
      exact (Bool.or_eq_false_iff.mp hb).1
    refine iterateBreaks_nested (.conjunction xs) hfirstBreaks fun hnone => ?_
    exact absurd (hfirst h) (ne_true_of_eq_false hnone)

/-- Composing step by step is the same as nesting: a disjunction that takes a first disjunction of
matchers in answers like the one that keeps it as a child, and so does a conjunction with a first
conjunction. -/
theorem splicing_eq_nesting (hne : xs ≠ []) (hxs : ∀ x ∈ xs, Composed x) (ys : List Matcher)
    (t : Text) :
    Alike t (anyOf (anyOf xs :: ys)) (disjunction (anyOf xs :: ys.flatMap disjuncts)) ∧
      Alike t (allOf (allOf xs :: ys)) (conjunction (allOf xs :: ys.flatMap conjuncts)) := by
  constructor
  · refine alike_disjunction (fun c hc hnone => ?_) _
    obtain ⟨x, hx, hc⟩ := List.mem_flatMap.mp hc
    exact ((hxs x hx).of_mem_disjuncts c hc).quiet hnone
  · refine alike_conjunction (fun hnil => ?_) _ t
    obtain ⟨x, hx⟩ := List.exists_mem_of_ne_nil xs hne
    exact (hxs x hx).conjuncts_ne_nil (List.flatMap_eq_nil_iff.mp hnil x hx)

/-- In `ba` the disjunction of `a` with `b` and with `b` alone keeps the match of `a` and the one of
`b`, of which the one of `a` was kept first. -/
theorem splicing_eq_nesting_letters :
    let a := regex (.letter 'a')
    let b := regex (.letter 'b')
    let xs := [conjunction [a, b], b]
    xs ≠ [] ∧ (∀ x ∈ xs, Composed x) ∧
      anyOf [anyOf xs, a] = disjunction [conjunction [a, b], b, a] ∧
      Alike ['b', 'a'] (anyOf [anyOf xs, a]) (disjunction [disjunction xs, a]) ∧
      Alike ['b', 'a'] (allOf [allOf xs, a]) (conjunction [conjunction [a, b, b], a]) ∧
      (disjunction [disjunction xs, a]).ranges ['b', 'a'] .matchesOnly =
        [.matched (.ofBounds 0 1), .matched (.ofBounds 1 2)] := by
  intro a b xs
  have hne : xs ≠ [] := by simp [xs]
  have ha : Composed a := .regex _
  have hb : Composed b := .regex _
  have hxs : ∀ x ∈ xs, Composed x := by
    have hpair : Composed (conjunction [a, b]) := .conjunction (by simp [ha, hb]) (by simp)
    simp [xs, hpair, hb]
  obtain ⟨hany, hall⟩ := splicing_eq_nesting hne hxs [a] ['b', 'a']
  exact ⟨hne, hxs, rfl, hany, hall, by cbv⟩

end Matcher

end PatternAlgebra
