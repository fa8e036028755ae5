import PatternAlgebra.Element.Grammar
import PatternAlgebra.Element.Reading
import PatternAlgebra.Proofs.Regex.Literal

/-! The signs of a grammar. A quantifier is read back as the repetition that wrote it, provided that
what follows is no mark for how it collects; an escaped text is read back character by character,
and in brackets as the list of its characters. -/
namespace PatternAlgebra

/-- A text that does not go on with a mark that a quantifier in front of it would take. -/
def Unmarked (t : Text) : Prop := t.head? ≠ some '+' ∧ t.head? ≠ some '?'

lemma unmarked_cons {c : Char} (t : Text) (hplus : c ≠ '+') (hquery : c ≠ '?') :
    Unmarked (c :: t) := by
  simp [Unmarked, hplus, hquery]

namespace Repeat

lemma readCollect_of_unmarked {t : Text} (h : Unmarked t) : readCollect t = (none, t) := by
  unfold readCollect
  split
  · simp [Unmarked] at h
  · simp [Unmarked] at h
  · rfl

lemma readCollect_mark (collect : Option Collect) {t : Text} (h : Unmarked t) :
    readCollect (collect.elim [] Collect.mark ++ t) = (collect, t) := by
  cases collect with
  | none => exact readCollect_of_unmarked h
  | some c => cases c <;> rfl

/-- Reading digits stops where the number ends. -/
lemma span_digits {ds : Text} (hds : ∀ d ∈ ds, d.isDigit = true) {c : Char}
    (hc : c.isDigit = false) (t : Text) :
    (ds ++ c :: t).span Char.isDigit = (ds, c :: t) := by
  rw [List.span_eq_takeWhile_dropWhile, List.takeWhile_append_of_pos hds,
    List.dropWhile_append_of_pos hds, List.takeWhile_cons_of_neg (by simp [hc]),
    List.dropWhile_cons_of_neg (by simp [hc]), List.append_nil]

lemma span_decimal (n : ℕ) {c : Char} (hc : c.isDigit = false) (t : Text) :
    (Text.decimal n ++ c :: t).span Char.isDigit = (Text.decimal n, c :: t) :=
  span_digits (fun _ => Text.isDigit_of_mem_decimal) hc t

lemma span_none {c : Char} (hc : c.isDigit = false) (t : Text) :
    (c :: t).span Char.isDigit = ([], c :: t) :=
  span_digits (fun _ hd => absurd hd List.not_mem_nil) hc t

lemma isEmpty_decimal (n : ℕ) : (Text.decimal n).isEmpty = false := by
  simp [Text.decimal_ne_nil]

/-- What is written between braces is read as the bounds. -/
lemma readBounds?_eq (n m : ℕ) (t : Text) :
    readBounds? (Text.decimal n ++ '\x7d' :: t) = some (ofCount n, t) ∧
      readBounds? (Text.decimal n ++ ',' :: '\x7d' :: t) = some (atLeast n, t) ∧
      readBounds? (',' :: (Text.decimal m ++ '\x7d' :: t)) = some (atMost m, t) ∧
      readBounds? (Text.decimal n ++ ',' :: (Text.decimal m ++ '\x7d' :: t)) =
        some (between n m, t) := by
  have hbrace : Char.isDigit '\x7d' = false := by decide
  have hcomma : Char.isDigit ',' = false := by decide
  refine ⟨?_, ?_, ?_, ?_⟩ <;>
    simp only [readBounds?, span_decimal _ hbrace, span_decimal _ hcomma, span_none hbrace,
      span_none hcomma, isEmpty_decimal, Text.decimalValue_decimal, List.isEmpty_nil, if_true,
      Bool.false_eq_true, if_false]

/-- Without the mark a quantifier is read back up to how it collects. -/
lemma readCore?_core (times : Repeat) (t : Text) :
    ∃ f, readCore? (times.core ++ t) = some (f, t) ∧ f times.collect = times := by
  cases times with
  | optional c => exact ⟨optional, rfl, rfl⟩
  | oneOrMore c => exact ⟨oneOrMore, rfl, rfl⟩
  | zeroOrMore c => exact ⟨zeroOrMore, rfl, rfl⟩
  | exactly n =>
    refine ⟨ofCount n, ?_, rfl⟩
    simpa [core, braces, readCore?] using (readBounds?_eq n 0 t).1
  | atLeast n c =>
    refine ⟨atLeast n, ?_, rfl⟩
    simpa [core, braces, readCore?] using (readBounds?_eq n 0 t).2.1
  | atMost m c =>
    refine ⟨atMost m, ?_, rfl⟩
    simpa [core, braces, readCore?] using (readBounds?_eq 0 m t).2.2.1
  | between n m c =>
    refine ⟨between n m, ?_, rfl⟩
    simpa [core, braces, readCore?] using (readBounds?_eq n m t).2.2.2

/-- A quantifier is read back. -/
lemma read?_grammar (times : Repeat) {t : Text} (h : Unmarked t) :
    read? (times.grammar ++ t) = some (times, t) := by
  obtain ⟨f, hcore, hf⟩ := readCore?_core times (times.collect.elim [] Collect.mark ++ t)
  have hmark := readCollect_mark times.collect h
  rw [read?, grammar, List.append_assoc, hcore]
  simp only [Option.map_some, hmark, hf]

end Repeat

lemma Repeat.readCore?_eq_none {c : Char} (t : Text) (hquery : c ≠ '?') (hplus : c ≠ '+')
    (hstar : c ≠ '*') (hbrace : c ≠ '\x7b') : readCore? (c :: t) = none := by
  unfold readCore?
  split <;> simp_all

namespace Sign

lemma read?_eq_readOther? {c : Char} (t : Text) (hquery : c ≠ '?') (hplus : c ≠ '+')
    (hstar : c ≠ '*') (hbrace : c ≠ '\x7b') : read? (c :: t) = readOther? (c :: t) := by
  rw [read?, Repeat.read?, Repeat.readCore?_eq_none t hquery hplus hstar hbrace, Option.map_none]

lemma ne_of_not_special {c d : Char} (hc : isSpecialChar c = false) (hd : isSpecialChar d = true) :
    c ≠ d := by
  rintro rfl
  simp [hc] at hd

lemma read?_of_not_special {c : Char} (hc : isSpecialChar c = false) (t : Text) :
    read? (c :: t) = some (.item (.text [c]), t) := by
  have hne {d : Char} (hd : isSpecialChar d = true) : c ≠ d := ne_of_not_special hc hd
  rw [read?_eq_readOther? t (hne (by decide)) (hne (by decide)) (hne (by decide)) (hne (by decide))]
  rw [readOther?]
  · exact fun he => absurd he (hne (by decide))
  · exact fun _ _ he => absurd he (hne (by decide))
  all_goals exact hne (by decide)

lemma eq_true_of_special {p : Char → Bool}
    (h : "\\|^$()\x7b\x7d*+?[]-.".toList.all p = true) {c : Char} (hc : isSpecialChar c = true) :
    p c = true :=
  List.all_eq_true.mp h c (List.contains_iff_mem.mp hc)

lemma escapedChar?_of_special {c : Char} (hc : isSpecialChar c = true) :
    escapedChar? c = some c := by
  have hself : decide (escapedChar? c = some c) = true :=
    eq_true_of_special (p := fun c => decide (escapedChar? c = some c)) (by decide) hc
  exact of_decide_eq_true hself

lemma escaped?_of_special {c : Char} (hc : isSpecialChar c = true) :
    escaped? c = some (.text [c]) := by
  have hclass : (classes.lookup c).isNone = true :=
    eq_true_of_special (p := fun c => (classes.lookup c).isNone) (by decide) hc
  rw [escaped?, Option.isNone_iff_eq_none.mp hclass, escapedChar?_of_special hc]
  rfl

lemma escapeEach_cons (c : Char) (t : Text) : escapeEach (c :: t) = escapeEach [c] ++ escapeEach t := by
  simp [escapeEach]

lemma escapeEach_cons_of_special {c : Char} (hc : isSpecialChar c = true) (t : Text) :
    escapeEach (c :: t) = '\\' :: c :: escapeEach t := by
  simp [escapeEach, hc]

lemma escapeEach_cons_of_not_special {c : Char} (hc : isSpecialChar c = false) (t : Text) :
    escapeEach (c :: t) = c :: escapeEach t := by
  simp [escapeEach, hc]

/-- An escaped text begins with a backslash or with a character that means nothing. -/
lemma exists_cons_escapeEach {cs : Text} (h : cs ≠ []) :
    ∃ c t, escapeEach cs = c :: t ∧ (c = '\\' ∨ isSpecialChar c = false) := by
  obtain ⟨c, cs, rfl⟩ := List.exists_cons_of_ne_nil h
  cases hc : isSpecialChar c with
  | true => exact ⟨_, _, escapeEach_cons_of_special hc cs, Or.inl rfl⟩
  | false => exact ⟨_, _, escapeEach_cons_of_not_special hc cs, Or.inr hc⟩

lemma ne_of_begins {c d : Char} (hc : c = '\\' ∨ isSpecialChar c = false)
    (hd : isSpecialChar d = true) (hslash : '\\' ≠ d) : c ≠ d := by
  rcases hc with rfl | hc
  · exact hslash
  · exact ne_of_not_special hc hd

lemma unmarked_escapeEach {cs : Text} (h : cs ≠ []) (t : Text) : Unmarked (escapeEach cs ++ t) := by
  obtain ⟨c, u, hu, hc⟩ := exists_cons_escapeEach h
  rw [hu]
  exact unmarked_cons _ (ne_of_begins hc (by decide) (by decide))
    (ne_of_begins hc (by decide) (by decide))

/-- A character is read back from its escape. -/
lemma read?_escapeEach (c : Char) (t : Text) :
    read? (escapeEach [c] ++ t) = some (.item (.text [c]), t) := by
  cases hc : isSpecialChar c with
  | true =>
    rw [escapeEach_cons_of_special hc, List.cons_append,
      read?_eq_readOther? _ (by decide) (by decide) (by decide) (by decide), List.cons_append,
      readOther?, escaped?_of_special hc]
    rfl
  | false =>
    rw [escapeEach_cons_of_not_special hc]
    exact read?_of_not_special hc t

lemma members?_escapeEach (cs t : Text) : members? (escapeEach cs ++ ']' :: t) = some (cs, t) := by
  induction cs with
  | nil => rfl
  | cons c cs ih =>
    cases hc : isSpecialChar c with
    | true =>
      rw [escapeEach_cons_of_special hc, List.cons_append, List.cons_append, members?,
        escapedChar?_of_special hc, ih]
      rfl
    | false =>
      have hne {d : Char} (hd : isSpecialChar d = true) : c ≠ d := ne_of_not_special hc hd
      rw [escapeEach_cons_of_not_special hc, List.cons_append, members?]
      · simp [ih, hne (d := '[') (by decide), hne (d := '-') (by decide)]
      · exact hne (by decide)
      · exact fun he => absurd he (hne (by decide))
      · exact fun _ _ he => absurd he (hne (by decide))

lemma firstMembers?_escapeEach {cs : Text} (h : cs ≠ []) (t : Text) :
    firstMembers? (escapeEach cs ++ ']' :: t) = some (cs, t) := by
  have hmembers := members?_escapeEach cs t
  obtain ⟨c, u, hu, hc⟩ := exists_cons_escapeEach h
  rw [hu, List.cons_append] at hmembers ⊢
  rw [firstMembers?, hmembers]
  rintro _ ⟨rfl, -⟩
  exact ne_of_begins hc (by decide) (by decide) rfl

/-- A set is read back as the list of its characters. -/
lemma set?_charIn {cs : Text} (h : cs ≠ []) (t : Text) :
    set? (escapeEach cs ++ ']' :: t) = some (.charIn cs, t) := by
  have hfirst := firstMembers?_escapeEach h t
  obtain ⟨c, u, hu, hc⟩ := exists_cons_escapeEach h
  rw [hu, List.cons_append] at hfirst ⊢
  rw [set?, hfirst]
  · rfl
  · rintro _ ⟨rfl, -⟩
    exact ne_of_begins hc (by decide) (by decide) rfl

lemma set?_charNotIn {cs : Text} (h : cs ≠ []) (t : Text) :
    set? ('^' :: (escapeEach cs ++ ']' :: t)) = some (.charNotIn cs, t) := by
  rw [set?, firstMembers?_escapeEach h]
  rfl

lemma read?_charIn {cs : Text} (h : cs ≠ []) (t : Text) :
    read? ('[' :: (escapeEach cs ++ ']' :: t)) = some (.item (.charIn cs), t) := by
  rw [read?_eq_readOther? _ (by decide) (by decide) (by decide) (by decide), readOther?, set?_charIn h]
  rfl

lemma read?_charNotIn {cs : Text} (h : cs ≠ []) (t : Text) :
    read? ('[' :: '^' :: (escapeEach cs ++ ']' :: t)) = some (.item (.charNotIn cs), t) := by
  rw [read?_eq_readOther? _ (by decide) (by decide) (by decide) (by decide), readOther?,
    set?_charNotIn h]
  rfl

end Sign

end PatternAlgebra
