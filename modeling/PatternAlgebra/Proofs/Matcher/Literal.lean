import PatternAlgebra.Proofs.Matcher.Breakage
import PatternAlgebra.Proofs.Matcher.Locate
import PatternAlgebra.Proofs.Regex.Replacement

/-! Literal replacement. Whatever a matcher is made of, an escaped text takes the place of its
matches as it is: combinations hand it on unescaped, and each regular expression that they reach
gets it escaped once. There is a result unless a regular expression has none. -/
namespace PatternAlgebra.Matcher

open Fragment

/-- The target with `s` in the place of each match of the stream. -/
def rewritten (m : Matcher) (t s : Text) : Text := spliced t s (m.ranges t .shallow)

mutual

/-- The target with a text in the place of each match. A disjunction goes on with the result for
each of its children in turn, and so does a conjunction if each of them has a match. -/
def insertLiteral : Matcher → (target literal : Text) → Text
  | regex r, t, s => if (regex r).ranges t .shallow = [] then t else (regex r).rewritten t s
  | nothing, t, s => nothing.rewritten t s
  | whole, t, s => whole.rewritten t s
  | conjunction ms, t, s => if ∀ m ∈ ms, m.hasMatches t then insertEach ms t s else t
  | disjunction ms, t, s => insertEach ms t s
  | inversion m, t, s => (inversion m).rewritten t s
  | scripted _, t, s => Script.replaceMatches t s

def insertEach : List Matcher → (target literal : Text) → Text
  | [], t, _ => t
  | m :: ms, t, s => insertEach ms (insertLiteral m t s) s

end

variable {t s : Text}

lemma run_rewriter (t s : Text) (fs : List (Fragment CharRange)) (parts : List Text) :
    ∃ parts', (rewriter t s).run fs (some parts, true) = (some parts', true) ∧
      parts'.reverse.flatten = parts.reverse.flatten ++ spliced t s (swapped fs) := by
  induction fs generalizing parts with
  | nil => exact ⟨parts, rfl, by simp⟩
  | cons f fs ih =>
    cases f with
    | matched r =>
      obtain ⟨parts', hrun, hflat⟩ := ih (r.slice t :: parts)
      exact ⟨parts', hrun, by simp [hflat]⟩
    | unmatched r =>
      obtain ⟨parts', hrun, hflat⟩ := ih (s :: parts)
      exact ⟨parts', hrun, by simp [hflat]⟩
    | group r id =>
      obtain ⟨parts', hrun, hflat⟩ := ih parts
      exact ⟨parts', hrun, hflat⟩

lemma replaceMatches_inversion (m : Matcher) (t s : Text) :
    (inversion m).replaceMatches t s = (inversion m).rewritten t s := by
  rw [replaceMatches, iterate_eq_run, rewritten, ranges_inversion, spliced_restrict_shallow]
  cases hfs : m.ranges t .shallow with
  | nil => simp [inverted]
  | cons f fs =>
    -- the first fragment begins the list of parts
    have hbegin : (rewriter t s).run (f :: fs) (none, true) =
        (rewriter t s).run (f :: fs) (some [], true) := by
      cases f <;> rfl
    obtain ⟨parts, hrun, hflat⟩ := run_rewriter t s (f :: fs) []
    rw [hbegin, hrun]
    exact hflat

lemma replaceMatches_regex (r : Regex) (t s : Text) :
    (regex r).replaceMatches t (Template.escape s) = (regex r).insertLiteral t s := by
  rw [replaceMatches, r.replaceMatches_escape, insertLiteral, rewritten, ranges_regex,
    spliced_restrict_shallow]
  simp only [r.restrict_shallow_shown_eq_nil_iff]

lemma replaceEach_eq {ms : List Matcher} {s : Text}
    (h : ∀ m ∈ ms, ∀ t, m.replaceMatches t (m.escapeTemplate s) = m.insertLiteral t s) (t : Text) :
    replaceEach ms t s = insertEach ms t s := by
  induction ms generalizing t with
  | nil => rw [replaceEach, insertEach]
  | cons m ms ih =>
    obtain ⟨hm, hms⟩ := List.forall_mem_cons.mp h
    rw [replaceEach, insertEach, hm, ih hms]

/-- An escaped text takes the place of each match as it is. -/
lemma replaceMatches_eq_insertLiteral (m : Matcher) (t s : Text) :
    m.replaceMatches t (m.escapeTemplate s) = m.insertLiteral t s := by
  induction m generalizing t with
  | regex r => exact replaceMatches_regex r t s
  | nothing =>
    rw [replaceMatches, insertLiteral, rewritten, ranges_nothing]
    simp [CharRange.slice_eq_take_drop, CharRange.whole]
  | whole =>
    rw [replaceMatches, insertLiteral, rewritten, ranges_whole, spliced_restrict_shallow]
    simp [escapeTemplate]
  | conjunction ms ih =>
    have heach : replaceEach ms t s = insertEach ms t s := replaceEach_eq ih t
    rw [insertLiteral, replaceMatches]
    · simp only [hasMatches_conjunction, escapeTemplate]
      cases ms with
      | nil => simp [insertEach]
      | cons m ms => simp [heach]
  | disjunction ms ih =>
    rw [insertLiteral, replaceMatches]
    exact replaceEach_eq ih t
  | inversion m _ =>
    rw [insertLiteral]
    exact replaceMatches_inversion m t s
  | scripted script =>
    rw [insertLiteral, replaceMatches]
    rfl

/-- A matcher that is made of the library's own parts, with regular expressions in whose searches
nothing is broken off and whose matches come one behind the other, in every text. -/
inductive Reliable : Matcher → Prop
  | regex {r : Regex} (hfirst : ∀ t, r.program.breaksAtFirst t = false)
      (hlast : ∀ t, r.program.breaksAtLast t = false) (horder : ∀ t, r.InOrder t) :
      Reliable (.regex r)
  | nothing : Reliable .nothing
  | whole : Reliable .whole
  | conjunction {ms : List Matcher} (h : ∀ m ∈ ms, Reliable m) : Reliable (.conjunction ms)
  | disjunction {ms : List Matcher} (h : ∀ m ∈ ms, Reliable m) : Reliable (.disjunction ms)
  | inversion {m : Matcher} (h : Reliable m) : Reliable (.inversion m)

lemma replaceEachBreaks_eq_false {ms : List Matcher}
    (h : ∀ m ∈ ms, ∀ t s, m.replaceBreaks t s = false) (t s : Text) :
    replaceEachBreaks ms t s = false := by
  induction ms generalizing t with
  | nil => rw [replaceEachBreaks]
  | cons m ms ih =>
    obtain ⟨hm, hms⟩ := List.forall_mem_cons.mp h
    simp only [replaceEachBreaks, hm, ih hms, Bool.or_false]

namespace Reliable

variable {m : Matcher}

lemma steady (h : Reliable m) (t : Text) : Steady t m := by
  induction h generalizing t with
  | regex _ hlast _ => exact .regex (hlast t)
  | nothing => exact .nothing t
  | whole => exact .whole t
  | conjunction _ ih => exact .conjunction fun m hm => ih m hm t
  | disjunction _ ih => exact .disjunction fun m hm => ih m hm t
  | inversion _ ih => exact .inversion fun u _ => ih u

/-- Where no regular expression breaks a search off or steps back, no replacement is broken off. -/
lemma replaceBreaks (h : Reliable m) (t s : Text) : m.replaceBreaks t s = false := by
  induction h generalizing t s with
  | @regex r _ hlast horder =>
    rw [Matcher.replaceBreaks]
    exact (r.replaceBreaks_eq_false_iff t).mpr ⟨hlast t, horder t⟩
  | nothing => rw [Matcher.replaceBreaks]
  | whole => rw [Matcher.replaceBreaks]
  | conjunction h ih =>
    rw [Matcher.replaceBreaks, ((conjunction h).steady t).hasBreaks, replaceEachBreaks_eq_false ih,
      Bool.and_false, Bool.or_false]
  | disjunction _ ih => rw [Matcher.replaceBreaks, replaceEachBreaks_eq_false ih]
  | inversion h _ =>
    rw [Matcher.replaceBreaks]
    exact (h.steady t).iterateBreaks _ _ _

/-- An expression without groups that refer to themselves and without moved starts is reliable. -/
lemma of_not_canBreak {r : Regex} (h : r.canBreak = false) : Reliable (.regex r) := by
  have hlast := r.breaksAtLast_eq_false h
  have hback := (Bool.or_eq_false_iff.mp h).2
  exact .regex (fun t => Engine.Program.breaksAtFirst_eq_false (hlast t)) hlast
    (Regex.inOrder_of_not_canStepBack hback)

end Reliable

/-- An escaped text takes the place of each match as it is, through all combinations, and of the
matchers only a regular expression needs it escaped. There is a result if the regular expressions
are reliable. -/
theorem replaceMatches_escapeTemplate (m : Matcher) (t s : Text) :
    m.replaceMatches t (m.escapeTemplate s) = m.insertLiteral t s ∧
      ((∀ r, m ≠ regex r) → m.replaceMatches t s = m.insertLiteral t s) ∧
      (m.Reliable → m.breaksOff t (.replace (m.escapeTemplate s)) = false) := by
  have hresult := replaceMatches_eq_insertLiteral m t s
  refine ⟨hresult, fun hm => ?_, fun h => ?_⟩
  · cases m with
    | regex r => exact absurd rfl (hm r)
    | _ => exact hresult
  · rw [breaksOff, h.replaceBreaks, Bool.and_false]

/-- In `ab` the text `$0` takes the place of `a` and then that of what is not `b`. -/
theorem replaceMatches_escapeTemplate_letters :
    let m := conjunction [regex (.letter 'a'), inversion (regex (.letter 'b'))]
    m.Reliable ∧ (∀ r, m ≠ regex r) ∧
      m.replaceMatches ['a', 'b'] ['$', '0'] = ['$', '0', 'b'] ∧
      m.breaksOff ['a', 'b'] (.replace ['$', '0']) = false := by
  intro m
  have hletter (c : Char) : (regex (.letter c)).Reliable := .of_not_canBreak rfl
  have hm : m.Reliable := by
    refine .conjunction fun c hc => ?_
    rcases List.mem_cons.mp hc with rfl | hc
    · exact hletter 'a'
    · rw [List.mem_singleton.mp hc]
      exact (hletter 'b').inversion
  have hroot : ∀ r, m ≠ regex r := by simp [m]
  have hliteral : m.insertLiteral ['a', 'b'] ['$', '0'] = ['$', '0', 'b'] := by decide +kernel
  obtain ⟨-, hresult, hbreaks⟩ := replaceMatches_escapeTemplate m ['a', 'b'] ['$', '0']
  exact ⟨hm, hroot, (hresult hroot).trans hliteral, hbreaks hm⟩

/-- In `aaa` the second match begins before the end of the first one. Each of them has its place
taken in the stream, but the replacement is broken off. -/
theorem replaceMatches_stepping_back :
    ∃ r : Regex, Regex.compile? "(?<=\\Ka)a".toList (.ofCase true) = some r ∧
      (regex r).ranges "aaa".toList .shallow = [.matched (.ofBounds 0 2), .matched (.ofBounds 1 3)] ∧
      (regex r).insertLiteral "aaa".toList "x".toList = "xx".toList ∧
      (regex r).breaksOff "aaa".toList (.replace ((regex r).escapeTemplate "x".toList)) = true := by
  refine ⟨(Regex.compile? "(?<=\\Ka)a".toList (.ofCase true)).get (by decide +kernel), ?_⟩
  refine ⟨?_, ?_, ?_, ?_⟩ <;> decide +kernel

end PatternAlgebra.Matcher
