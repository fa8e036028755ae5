import PatternAlgebra.Proofs.Matcher.Locate
import PatternAlgebra.Proofs.Regex.Events
import PatternAlgebra.Proofs.Search.Rows
import PatternAlgebra.Proofs.Search.SubsequenceOutcomes

/-! Searches for subsequences. In a single line there is a match just if the characters occur in order,
up to case. Each match is shown with one group for each character: the first begins where the match
begins, and the last ends where it ends. -/
namespace PatternAlgebra

lemma groupsFrom_map_some {α : Type} (f : α → CharRange) (as : List α) (id : ℕ) :
    groupsFrom id (as.map fun a => some (f a)) = (as.zipIdx id).map fun (a, n) => .group (f a) n := by
  induction as generalizing id with
  | nil => rfl
  | cons a as ih => rw [List.map_cons, groupsFrom, ih, List.zipIdx_cons, List.map_cons]

namespace Search

open Engine

variable {s t : Text}

/-- The regular expression for a subsequence. -/
def subsequenceRegex (s : Text) : Regex where
  grammar := subsequenceGrammar s
  flags := .ofCase false
  program := subsequenceProgram s

lemma compile?_subsequence (hs : s ≠ []) :
    Regex.compile? (subsequenceGrammar s) (.ofCase false) =
      if (subsequenceRegular s).size ≤ Regular.sizeLimit then some (subsequenceRegex s) else none := by
  have hdirective : (EngineFlags.ofCase false).directive = "(?i)".toList := rfl
  rw [compile?_of_ne_nil (subsequenceGrammar_ne_nil hs), hdirective, ofGrammar?_subsequence hs]
  split_ifs <;> rfl

/-- The matcher for a subsequence. -/
lemma subsequence_eq (s : Text) : subsequence s = compiled (subsequenceGrammar s) (.ofCase false) := by
  cases s <;> rfl

/-- The groups of a match, one for the character at each of some positions. -/
def capturedAt (ps : List ℕ) : List (Fragment CharRange) :=
  ps.zipIdx.map fun (i, n) => .group (.ofBounds i (i + 1)) n

/-- A match captures the characters one by one, by characters of the target. -/
lemma exists_spelledAt_of_mem_occurrences (hs : s ≠ []) {m : Match CharRange}
    (hm : m ∈ (subsequenceRegex s).occurrences t) :
    ∃ ps, s.SpelledAt t ps ∧ ps.head? = some m.whole.start ∧
      ps.getLast?.map (· + 1) = some m.whole.stop ∧ groupsFrom 0 m.groups = capturedAt ps := by
  rw [Regex.occurrences_eq_inText] at hm
  obtain ⟨q, hq, rfl⟩ := List.mem_map.mp hm
  obtain ⟨first, hfound⟩ := Program.exists_search_of_mem hq
  obtain ⟨ps, hspelled, hhead, hlast, hgroups⟩ := Program.exists_spelledAt_of_found hs hfound
  have hlt := hspelled.lt_length
  obtain ⟨hstart, hstop⟩ := Regex.whole_inText (Program.search_found hfound).1 t
  refine ⟨ps, hspelled, ?_, ?_, ?_⟩
  · rw [hhead, hstart, Nat.min_eq_left (hlt _ (List.mem_of_mem_head? hhead)).le]
  · obtain ⟨i, hi, hend⟩ := Option.map_eq_some_iff.mp hlast
    have hle : i < t.length := hlt i (List.mem_of_mem_getLast? hi)
    rw [hlast, hstop, ← hend, Nat.min_eq_left hle]
  · have htext : (Regex.inText t q).groups = ps.map fun i => some (.ofBounds i (i + 1)) := by
      have hmap : (Regex.inText t q).groups =
          (q.groups.map (Option.map (Program.toByteSpan t))).map (Option.map (.ofByteSpan t)) := rfl
      rw [hmap, hgroups, List.map_map, List.map_map]
      refine List.map_congr_left fun i hi => ?_
      have hle := hlt i hi
      simp only [Function.comp_apply, Option.map_some, CharRange.ofByteSpan_toByteSpan,
        Nat.min_eq_left hle.le, Nat.min_eq_left (Nat.succ_le_of_lt hle)]
    rw [htext, groupsFrom_map_some]
    rfl

/-- The characters of a text are searched for in order, up to case, if its grammar compiles. Then a line
has a match just if they occur in it. In any target each match that is shown with its groups has one
group for each character, in order, and spans them. A text whose grammar does not compile matches
nothing. Every text of no more than 5000 characters compiles, the empty one apart. -/
theorem subsequence_searches (s : Text) :
    (∀ r, Regex.compile? (subsequenceGrammar s) (.ofCase false) = some r →
      subsequence s = .regex r ∧
      (∀ t, '\n' ∉ t →
        ((subsequence s).hasMatches t = true ↔ (s.map caseFold).Sublist (t.map caseFold))) ∧
      ∀ (t : Text) (selection : Selection), selection.allowsKind .matched →
        selection.allowsKind .group → ∀ before range after,
          ((subsequence s).iterate t selection Visitor.collect []).2.reverse =
              before ++ .matched range :: after →
            ∃ ps rest, after = capturedAt ps ++ rest ∧ Fragment.OpensRegion rest ∧ s.SpelledAt t ps ∧
              ps.head? = some range.start ∧ ps.getLast?.map (· + 1) = some range.stop) ∧
    (Regex.compile? (subsequenceGrammar s) (.ofCase false) = none → subsequence s = .nothing) ∧
    (s ≠ [] → s.length ≤ 5000 →
      ∃ r, Regex.compile? (subsequenceGrammar s) (.ofCase false) = some r) := by
  refine ⟨fun r hr => ?_, fun hnone => ?_, fun hs hlength => ?_⟩
  · have hs : s ≠ [] := by
      rintro rfl
      cases hr
    have hregex : subsequence s = .regex r := (subsequence_eq s).trans (compiled_of_compile? hr)
    rw [compile?_subsequence hs, Option.ite_none_right_eq_some] at hr
    obtain rfl := Option.some_inj.mp hr.2
    refine ⟨hregex, fun t ht => ?_, fun t selection hmatched hgroup before range after hshown => ?_⟩
    · rw [hregex, Matcher.hasMatches_eq_isSome_locate, Matcher.locate, Regex.isSome_locate_iff,
        Text.sublist_caseFold_iff]
      exact Program.exists_found_iff hs ht
    · rw [hregex, Matcher.iterate, Regex.iterate_eq_run, Visitor.run_collect] at hshown
      simp only [List.append_nil, List.reverse_reverse] at hshown
      have hne : (subsequenceRegex s).occurrences t ≠ [] := by
        intro hnone
        simp [Regex.shown, hnone] at hshown
      rw [Regex.shown_of_ne_nil hne] at hshown
      obtain ⟨m, hm, rfl, rest, hrest, rfl⟩ :=
        Selection.exists_groups_of_restrict_layout hmatched hgroup hshown
      obtain ⟨ps, hspelled, hfirst, hlast, hgroups⟩ := exists_spelledAt_of_mem_occurrences hs hm
      exact ⟨ps, rest, hgroups ▸ rfl, hrest, hspelled, hfirst, hlast⟩
  · exact (subsequence_eq s).trans (compiled_of_compile?_eq_none hnone)
  · have hfits : (subsequenceRegular s).size ≤ Regular.sizeLimit := by
      have hlinks : (links 0 s).map Link.regular ≠ [] := by simpa using links_ne_nil 0 hs
      refine Regular.size_row_le hlinks fun backward => ?_
      have hle := sum_bytes_links_le backward 0 s
      rw [Regular.sizeLimit]
      omega
    exact ⟨_, (compile?_subsequence hs).trans (if_pos hfits)⟩

/-- A full stop stands for itself and letters for both of their cases, in the order of the text, and the
match in `xA-.-c` is shown with its three groups. -/
theorem subsequence_searches_dotted :
    (subsequence "a.C".toList).hasMatches "xA-.-c".toList = true ∧
      (subsequence "a.C".toList).hasMatches "c.a".toList = false ∧
      ∃ before range ps rest, Text.SpelledAt "a.C".toList "xA-.-c".toList ps ∧
        ((subsequence "a.C".toList).iterate "xA-.-c".toList .everything Visitor.collect []).2.reverse =
          before ++ .matched range :: (capturedAt ps ++ rest) := by
  obtain ⟨hsearch, -, haccepted⟩ := subsequence_searches "a.C".toList
  obtain ⟨q, hq⟩ := haccepted (by decide) (by decide)
  obtain ⟨hr, hmatches, hstream⟩ := hsearch q hq
  have hhas : (subsequence "a.C".toList).hasMatches "xA-.-c".toList = true :=
    (hmatches _ (by decide)).mpr (by decide)
  refine ⟨hhas, ?_, ?_⟩
  · rw [Bool.eq_false_iff, ne_eq, hmatches _ (by decide)]
    decide
  · rw [hr, Matcher.hasMatches_eq_isSome_locate, Matcher.locate, q.locate_eq, Option.isSome_map,
      List.isSome_head?] at hhas
    have hne : q.occurrences "xA-.-c".toList ≠ [] := by simpa using hhas
    obtain ⟨m, ms, hcons⟩ := List.exists_cons_of_ne_nil hne
    have hshown : ((subsequence "a.C".toList).iterate "xA-.-c".toList .everything
        Visitor.collect []).2.reverse = gap 0 m.whole.start ++ .matched m.whole ::
          (groupsFrom 0 m.groups ++ layout "xA-.-c".toList.length m.whole.stop ms) := by
      rw [hr, Matcher.iterate, Regex.iterate_eq_run, Visitor.run_collect,
        Selection.restrict_everything, List.append_nil, List.reverse_reverse,
        Regex.shown_of_ne_nil hne, hcons, layout]
    obtain ⟨ps, rest, hafter, -, hspelled, -⟩ := hstream _ .everything rfl rfl _ _ _ hshown
    exact ⟨_, _, ps, rest, hspelled, hafter ▸ hshown⟩

lemma subsequence_of_long (hlong : Regular.sizeLimit < 464 * (s.length - 1)) :
    subsequence s = .nothing := by
  have hs : s ≠ [] := by
    rintro rfl
    exact absurd hlong (by decide)
  have hle := (le_sum_bytes_links 0 s).trans (Regular.le_size_row _)
  refine (subsequence_eq s).trans (compiled_of_compile?_eq_none ?_)
  exact (compile?_subsequence hs).trans (if_neg (not_le.mpr (hlong.trans_le hle)))

/-- Forty thousand letters are too many to be searched for, even in the same letters. -/
theorem subsequence_searches_limit :
    ((List.replicate 40000 'a').map caseFold).Sublist ((List.replicate 40000 'a').map caseFold) ∧
      (subsequence (List.replicate 40000 'a')).hasMatches (List.replicate 40000 'a') = false := by
  have hnothing : subsequence (List.replicate 40000 'a') = .nothing := by
    apply subsequence_of_long
    rw [List.length_replicate]
    decide
  refine ⟨List.Sublist.refl _, ?_⟩
  rw [hnothing, Matcher.hasMatches_eq_isSome_locate, Matcher.locate]
  rfl

end Search

end PatternAlgebra
