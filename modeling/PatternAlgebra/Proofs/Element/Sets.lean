import PatternAlgebra.Proofs.Element.Reading
import PatternAlgebra.Proofs.Engine.Bracket
import PatternAlgebra.Proofs.Engine.Factors
import PatternAlgebra.Search.Literal

/-! Elements for sets of characters. Each is written as a single set, which the engine accepts and
finds in a text of one character just if that is a member. -/
namespace PatternAlgebra

namespace Engine

/-- A set is found in a text of one character just if that is a member. -/
lemma Program.search_ofSet (set : CharSet) (c : Char) :
    ((Program.ofSet set).search #[c] 0).toOption.isSome = set.contains c := by
  have hbody : (Program.ofSet set).body = .regular (.set set) := rfl
  have hfirst : #[c][0]? = some c := rfl
  cases hc : set.contains c with
  | true =>
    rw [search_set_of_mem hbody hfirst hc]
    rfl
  | false =>
    rw [search_set_of_not_mem hbody hfirst hc, search_set_at_end hbody (by simp)]
    rfl

end Engine

namespace Search

open Engine Bracket

variable {e : Element} {s : Text} {lexeme : Lexeme} {set : CharSet} {depth : ℕ}

lemma hasMatches_ofSet (grammar : Text) (flags : EngineFlags) (set : CharSet) (c : Char) :
    (Matcher.regex ⟨grammar, flags, .ofSet set⟩).hasMatches [c] = set.contains c := by
  rw [← Program.search_ofSet]
  have hlocate : (Matcher.regex ⟨grammar, flags, .ofSet set⟩).hasMatches [c] =
      (((Program.ofSet set).find? [c]).bind (CharRange.ofBytes? [c])).isSome := rfl
  rw [hlocate, Program.find?]
  cases ((Program.ofSet set).search [c].toArray 0).toOption with
  | none => rfl
  | some m => rw [Option.map_some, Option.bind_some, CharRange.ofBytes?_toByteSpan]; rfl

/-- An element that is written as a single set. -/
lemma element_of_lexeme (hblank : Lexeme.beginsWithBlank false e.grammar = false)
    (hnext : Lexeme.next? false false e.grammar = some (lexeme, []))
    (hstep : ∀ bound,
      ({} : Assembly).step? bound [] lexeme = some (({} : Assembly).awaitExpr (.set set depth))) :
    element e { matchCase := true } =
      if depth ≤ Regular.nestingLimit ∧ (Regular.set set).size ≤ Regular.sizeLimit then
        .regex ⟨e.grammar, .ofOptions { matchCase := true }, .ofSet set⟩
      else .nothing := by
  have hne : e.grammar.isEmpty = false := by
    cases hgrammar : e.grammar with
    | nil =>
      rw [hgrammar] at hnext
      cases hnext
    | cons c t => rfl
  have hprogram := Program.ofGrammar?_of_lexeme hblank hnext hstep
  have hdirective : (EngineFlags.ofOptions { matchCase := true }).directive = [] := rfl
  rw [element, compiled, Regex.compile?, Regex.compile, hne, if_neg Bool.false_ne_true, hdirective,
    List.nil_append, hprogram]
  split_ifs <;> rfl

/-- An element that is written as a text between brackets. -/
lemma element_bracketed (hs : s ≠ []) (hoperators : (operands s).2.length ≤ 248)
    (hsize : 40 * s.byteLength + 580 ≤ Regular.sizeLimit) {negated : Bool}
    (hgrammar : e.grammar = '[' :: ((if negated then ['^'] else []) ++ (escapeEach s ++ [']']))) :
    ∃ r, element e { matchCase := true } = .regex r ∧
      ∀ c, (Matcher.regex r).hasMatches [c] = (negated != finds s c) := by
  obtain ⟨hcontains, hdepth, hle⟩ := close_frameOf negated s
  have hblank : Lexeme.beginsWithBlank false e.grammar = false := by
    rw [hgrammar]
    rfl
  have hnext : Lexeme.next? false false e.grammar = some (.bracket (bracketed negated s), []) := by
    rw [hgrammar, Lexeme.next?, delimit?_escapeEach hs]
    rfl
  have hstep (bound : ℕ) : ({} : Assembly).step? bound [] (.bracket (bracketed negated s)) =
      some (({} : Assembly).awaitExpr (.set _ _)) :=
    congrArg (Option.map ({} : Assembly).awaitExpr) (toExpr?_bracketed hs negated)
  have hfits : (Regular.set ((frameOf negated s).close false).1).size ≤ Regular.sizeLimit := by
    refine Regular.size_le fun backward => ?_
    have hbytes := hle backward
    rw [Regular.sizeLimit] at hsize ⊢
    rw [Regular.bytes]
    omega
  have hlimits := And.intro (hdepth.trans (Nat.add_le_add_right hoperators 2)) hfits
  refine ⟨_, (element_of_lexeme hblank hnext hstep).trans (if_pos hlimits), fun c => ?_⟩
  rw [hasMatches_ofSet, hcontains]

/-- A single character stands for itself. -/
lemma element_charIn_singleton (d : Char) :
    ∃ r, element (.charIn [d]) { matchCase := true } = .regex r ∧
      ∀ c, (Matcher.regex r).hasMatches [c] = finds [d] c := by
  have hgrammar : (Element.charIn [d]).grammar = escapeEach [d] := Element.charInGrammar_eq [d]
  have hlexeme : ∃ lexeme, Lexeme.beginsWithBlank false (escapeEach [d]) = false ∧
      Lexeme.next? false false (escapeEach [d]) = some (lexeme, []) ∧
        ∀ bound, ({} : Assembly).step? bound [] lexeme =
          some (({} : Assembly).awaitExpr (.set (.single d) 0)) := by
    cases hd : isSpecialChar d with
    | true =>
      rw [Sign.escapeEach_cons_of_special hd]
      refine ⟨.escape (.char d), rfl, ?_, fun _ => rfl⟩
      exact congrArg (Option.map _) (readEscape?_of_special hd []).1
    | false =>
      have hne {c : Char} (hc : isSpecialChar c = true) : d ≠ c := Sign.ne_of_not_special hd hc
      rw [Sign.escapeEach_cons_of_not_special hd]
      refine ⟨.char d, ?_, ?_, fun _ => rfl⟩
      · simp [Lexeme.beginsWithBlank, escapeEach]
      · rw [escapeEach, List.flatMap_nil, Lexeme.next?] <;> exact hne (by decide)
  obtain ⟨lexeme, hblank, hnext, hstep⟩ := hlexeme
  rw [← hgrammar] at hblank hnext
  have hsize : (Regular.set (.single d)).size ≤ Regular.sizeLimit := by
    have hle := d.utf8Size_le_four
    refine Regular.size_le fun backward => ?_
    rw [Regular.bytes, CharSet.bytes, Regular.sizeLimit]
    omega
  have helement := (element_of_lexeme hblank hnext hstep).trans (if_pos ⟨Nat.zero_le _, hsize⟩)
  refine ⟨_, helement, fun c => ?_⟩
  rw [hasMatches_ofSet, CharSet.contains, finds, operands_singleton]
  exact (Bool.or_false _).symm

lemma element_charIn (hs : s ≠ []) (hoperators : (operands s).2.length ≤ 248)
    (hsize : 40 * s.byteLength + 580 ≤ Regular.sizeLimit) :
    ∃ r, element (.charIn s) { matchCase := true } = .regex r ∧
      ∀ c, (Matcher.regex r).hasMatches [c] = finds s c := by
  by_cases hone : s.length = 1
  · obtain ⟨d, rfl⟩ := List.length_eq_one_iff.mp hone
    exact element_charIn_singleton d
  · have hgrammar : (Element.charIn s).grammar =
        '[' :: ((if false then ['^'] else []) ++ (escapeEach s ++ [']'])) :=
      (Element.charInGrammar_eq s).trans (if_neg hone)
    simpa only [Bool.false_bne] using element_bracketed hs hoperators hsize hgrammar

lemma element_charNotIn (hs : s ≠ []) (hoperators : (operands s).2.length ≤ 248)
    (hsize : 40 * s.byteLength + 580 ≤ Regular.sizeLimit) :
    ∃ r, element (.charNotIn s) { matchCase := true } = .regex r ∧
      ∀ c, (Matcher.regex r).hasMatches [c] = !finds s c := by
  have hgrammar : (Element.charNotIn s).grammar =
      '[' :: ((if true then ['^'] else []) ++ (escapeEach s ++ [']'])) := by
    rw [← escapePattern_eq_escapeEach]
    rfl
  simpa only [Bool.true_bne] using element_bracketed hs hoperators hsize hgrammar

/-- The element for the characters of a text and the one for all others are accepted by the engine
unless the text is too large or has too many operators. They match a character just if it is found
in the text, or not found there, where two ampersands in a row leave what is on both sides and two
tildes what is on one side only. Without these operators every character of the text is found. -/
theorem hasMatches_charIn (hs : s ≠ []) (hsize : 40 * s.byteLength + 580 ≤ Regular.sizeLimit) :
    ((operands s).2.length ≤ 248 →
      (∃ r, element (.charIn s) { matchCase := true } = .regex r ∧
        ∀ c, (Matcher.regex r).hasMatches [c] = finds s c) ∧
      ∃ r, element (.charNotIn s) { matchCase := true } = .regex r ∧
        ∀ c, (Matcher.regex r).hasMatches [c] = !finds s c) ∧
    (¬['&', '&'] <:+: s → ¬['~', '~'] <:+: s →
      (operands s).2.length = 0 ∧ ∀ c, finds s c = s.contains c) := by
  refine ⟨fun hoperators =>
    ⟨element_charIn hs hoperators hsize, element_charNotIn hs hoperators hsize⟩, ?_⟩
  intro hampersands htildes
  have hoperands := operands_of_not_infix hampersands htildes
  simp only [finds, hoperands]
  exact ⟨rfl, fun _ => rfl⟩

/-- In `^-]&~z` no sign has a meaning. -/
theorem hasMatches_charIn_signs :
    let s : Text := "^-]&~z".toList
    s ≠ [] ∧ 40 * s.byteLength + 580 ≤ Regular.sizeLimit ∧ (operands s).2.length = 0 ∧
      ¬['&', '&'] <:+: s ∧ ¬['~', '~'] <:+: s ∧
      (element (.charIn s) { matchCase := true }).hasMatches ['-'] = true ∧
      (element (.charIn s) { matchCase := true }).hasMatches ['a'] = false ∧
      (element (.charNotIn s) { matchCase := true }).hasMatches ['&'] = false := by
  intro s
  have hs : s ≠ [] := by decide
  have hsize : 40 * s.byteLength + 580 ≤ Regular.sizeLimit := by decide +kernel
  have hampersands : ¬['&', '&'] <:+: s := by decide
  have htildes : ¬['~', '~'] <:+: s := by decide
  obtain ⟨hcompiled, hplain⟩ := hasMatches_charIn hs hsize
  obtain ⟨hoperators, hfinds⟩ := hplain hampersands htildes
  obtain ⟨⟨r, hr, hin⟩, q, hq, hout⟩ := hcompiled (hoperators.trans_le (Nat.zero_le 248))
  refine ⟨hs, hsize, hoperators, hampersands, htildes, ?_, ?_, ?_⟩
  · rw [hr, hin, hfinds]
    rfl
  · rw [hr, hin, hfinds]
    rfl
  · rw [hq, hout, hfinds]
    rfl

/-- What is on both sides of `&&` between brackets is nothing, so the ampersand is not matched. The
characters around `~~` stay members, but the tilde becomes one of the others. -/
theorem hasMatches_charIn_operators :
    (∃ r, element (.charIn "&&".toList) { matchCase := true } = .regex r ∧
      (Matcher.regex r).hasMatches ['&'] = false) ∧
    ∃ r, element (.charNotIn "a~~b".toList) { matchCase := true } = .regex r ∧
      (Matcher.regex r).hasMatches ['a'] = false ∧ (Matcher.regex r).hasMatches ['~'] = true := by
  have hcompiled {e : Element} {r : Regex}
      (h : Regex.compile? e.grammar (.ofOptions { matchCase := true }) = some r) :
      element e { matchCase := true } = .regex r := by
    rw [element, compiled, h]
  constructor
  · let r := (Regex.compile? "[&&]".toList (.ofOptions { matchCase := true })).get
      (by decide +kernel)
    exact ⟨r, hcompiled (by decide +kernel), by decide +kernel⟩
  · let r := (Regex.compile? "[^a~~b]".toList (.ofOptions { matchCase := true })).get
      (by decide +kernel)
    exact ⟨r, hcompiled (by decide +kernel), by decide +kernel, by decide +kernel⟩

end Search

end PatternAlgebra
