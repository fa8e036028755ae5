import PatternAlgebra.Proofs.Regex.Replacement
import PatternAlgebra.Regex.Literal

/-! Literal text in grammars. A search for a single set of characters finds its members one after
the other, so a replacement by such an expression goes through the text character by character. That
is how a backslash comes in front of each special character. -/
namespace PatternAlgebra

open Engine

namespace Engine

variable {ctx : Context} {set : CharSet} {text : Array Char} {i : ℕ} {c : Char}

lemma Context.first?_set (ctx : Context) (set : CharSet) (i : ℕ) :
    ctx.first? (.set set) i = (ctx.advance? set i).map fun j => { pos := j } := by
  simp only [first?, outcomes, List.filterMap_cons, List.filterMap_nil]
  cases ctx.advance? set i <;> rfl

namespace Program

variable {p : Program}

/-- Where a search for one character began makes no difference to what it finds. -/
lemma findRegular_set_congr (set : CharSet) (text : Array Char) (origin origin' count start : ℕ) :
    p.findRegular ⟨text, origin⟩ (.set set) count start =
      p.findRegular ⟨text, origin'⟩ (.set set) count start := by
  induction count generalizing start with
  | zero => rfl
  | succ count ih =>
    have hadvance : Context.advance? ⟨text, origin⟩ set start =
        Context.advance? ⟨text, origin'⟩ set start := rfl
    rw [findRegular, findRegular, Context.first?_set, Context.first?_set, hadvance, ih]

lemma search_set_of_mem (h : p.body = .regular (.set set)) (hi : text[i]? = some c)
    (hc : set.contains c = true) :
    p.search text i = .found (p.matchOfPoint i { pos := i + 1 }) := by
  have hlt : i < text.size := (Array.getElem?_eq_some_iff.mp hi).1
  have hcount : text.size + 1 - i = text.size - i + 1 := by omega
  simp only [search, h, hcount, findRegular, Context.first?_set, Context.advance?, hi, hc, if_true,
    Option.map_some]

lemma search_set_of_not_mem (h : p.body = .regular (.set set)) (hi : text[i]? = some c)
    (hc : set.contains c = false) : p.search text i = p.search text (i + 1) := by
  have hlt : i < text.size := (Array.getElem?_eq_some_iff.mp hi).1
  have hcount : text.size + 1 - i = text.size + 1 - (i + 1) + 1 := by omega
  simp only [search, h]
  rw [hcount, findRegular]
  simp only [Context.first?_set, Context.advance?, hi, hc, Bool.false_eq_true, if_false,
    Option.map_none]
  exact findRegular_set_congr set text i (i + 1) _ _

lemma search_set_at_end (h : p.body = .regular (.set set)) (hi : text.size ≤ i) :
    p.search text i = .missing := by
  rcases hi.eq_or_lt with rfl | hlt
  · simp [search, h, findRegular, Context.first?_set, Context.advance?]
  · have hcount : text.size + 1 - i = 0 := by omega
    simp [search, h, hcount, findRegular]

lemma searchAll_congr {start : ℕ} (h : p.search text i = p.search text start) (fuel : ℕ)
    (previous : Option ℕ) :
    p.searchAll text fuel i previous = p.searchAll text fuel start previous := by
  cases fuel with
  | zero => rfl
  | succ fuel => simp only [searchAll, h]

end Program

end Engine

namespace Regex

variable {r : Regex} {set : CharSet} {t : Text}

/-- Text that no match has part in is copied. -/
lemma replaceFrom_succ {template : Text} {i : ℕ} {c : Char} (hi : t[i]? = some c)
    {ms : List (Match Span)} (hms : ∀ m ∈ ms.head?, i + 1 ≤ m.whole.start) :
    r.replaceFrom t template (t.bytesBefore i) (ms.map (·.map (Program.toByteSpan t))) =
      c :: r.replaceFrom t template (t.bytesBefore (i + 1))
        (ms.map (·.map (Program.toByteSpan t))) := by
  obtain ⟨hlt, rfl⟩ := List.getElem?_eq_some_iff.mp hi
  cases ms with
  | nil => rw [List.map_nil, replaceFrom_nil, replaceFrom_nil, List.drop_eq_getElem_cons hlt]
  | cons m ms =>
    have hle : i + 1 ≤ m.whole.start := hms m rfl
    have hsub : m.whole.start - i = m.whole.start - (i + 1) + 1 := by omega
    rw [List.map_cons, replaceFrom_cons, replaceFrom_cons, List.drop_eq_getElem_cons hlt, hsub,
      List.take_succ_cons]
    rfl

/-- What a template makes of one character. -/
lemma replaceFrom_set {template : Text} {f : Char → Text} (h : r.program.body = .regular (.set set))
    (hf : ∀ i c, t[i]? = some c → set.contains c = true →
      Engine.expand (r.groupText t ((r.program.matchOfPoint i { pos := i + 1 }).map
        (Program.toByteSpan t))) template = f c)
    {u : Text} {i : ℕ} (hu : t.drop i = u) {fuel : ℕ} (hfuel : u.length < fuel)
    (previous : Option ℕ) :
    r.replaceFrom t template (t.bytesBefore i)
        ((r.program.searchAll t.toArray fuel i previous).1.map (·.map (Program.toByteSpan t))) =
      u.flatMap fun c => if set.contains c then f c else [c] := by
  induction u generalizing i fuel previous with
  | nil =>
    obtain ⟨fuel, rfl⟩ := Nat.exists_eq_succ_of_ne_zero (Nat.ne_of_gt hfuel)
    have hend : t.toArray.size ≤ i := by simpa using List.drop_eq_nil_iff.mp hu
    have hnone : (r.program.searchAll t.toArray (fuel + 1) i previous).1 = [] := by
      rw [Program.searchAll, Program.search_set_at_end h hend]
    rw [hnone, List.map_nil, replaceFrom_nil, hu, List.flatMap_nil]
  | cons c u ih =>
    have hi : t[i]? = some c := by rw [← List.head?_drop, hu, List.head?_cons]
    have hget : t.toArray[i]? = some c := by simpa using hi
    have hnext : t.drop (i + 1) = u := by rw [← List.tail_drop, hu, List.tail_cons]
    have hlt : u.length + 1 < fuel := hfuel
    by_cases hc : set.contains c = true
    · obtain ⟨fuel, rfl⟩ := Nat.exists_eq_succ_of_ne_zero (show fuel ≠ 0 by omega)
      have hfound : (r.program.searchAll t.toArray (fuel + 1) i previous).1 =
          r.program.matchOfPoint i { pos := i + 1 } ::
            (r.program.searchAll t.toArray fuel (i + 1) (some (i + 1))).1 := by
        rw [Program.searchAll, Program.search_set_of_mem h hget hc]
        simp [Program.matchOfPoint]
      have hcopied :
          (t.drop i).take ((r.program.matchOfPoint i { pos := i + 1 }).whole.start - i) = [] := by
        simp [Program.matchOfPoint]
      rw [hfound, List.map_cons, replaceFrom_cons, hf i c hi hc, hcopied, List.flatMap_cons,
        if_pos hc]
      exact congrArg (f c ++ ·) (ih hnext (by omega) _)
    · have hsearch := Program.search_set_of_not_mem h hget (by simpa using hc)
      have hstill : r.program.canStepBack = false := by rw [Program.canStepBack, h]
      have hbehind := (r.program.searchAll_follows t.toArray fuel (i + 1) previous).2.2
      rw [Program.searchAll_congr hsearch,
        replaceFrom_succ hi fun m hm => (hbehind m hm).2 hstill, ih hnext (by omega),
        List.flatMap_cons, if_neg hc, List.singleton_append]

end Regex

/-- The regular expression that matches one special character. -/
def specialCharsRegex : Regex where
  grammar := specialCharsGrammar
  flags := .ofCase true
  program :=
    { body := .regular (.set ("\\|^$()\x7b\x7d*+?[]-.".toList.foldl
        (fun set c => .union set (.single c)) .nothing))
      groups := 0, lastGroup := 0, names := [] }

lemma specialChars_eq : specialChars = some specialCharsRegex := by decide +kernel

lemma contains_foldl_union (cs : Text) (set : CharSet) (c : Char) :
    (cs.foldl (fun set d => .union set (.single d)) set).contains c =
      (set.contains c || cs.contains c) := by
  induction cs generalizing set with
  | nil => simp
  | cons d cs ih => rw [List.foldl_cons, ih, CharSet.contains, CharSet.contains, List.contains_cons,
      Bool.or_assoc]

/-- What the template makes of a match: a backslash and the match. -/
lemma expand_backslash (group : Text → Text) :
    Engine.expand group (Template.encode (Template.parse specialCharsRegex.captureCount
      "\\\\$0".toList)) = '\\' :: group ['0'] := by
  have hparse : Template.parse specialCharsRegex.captureCount "\\\\$0".toList =
      [.literal ['\\'], .group 0] := by decide +kernel
  rw [hparse, Engine.expand_encode]
  simp [Template.expand, Text.decimal]

lemma groupText_single {i : ℕ} {c : Char} (t : Text) (hi : t[i]? = some c) :
    specialCharsRegex.groupText t
        ((specialCharsRegex.program.matchOfPoint i { pos := i + 1 }).map (Program.toByteSpan t))
        ['0'] = [c] := by
  obtain ⟨hlt, rfl⟩ := List.getElem?_eq_some_iff.mp hi
  have hslice : t.sliceBytes (t.bytesBefore i) (t.bytesBefore (i + 1)) = [t[i]] := by
    rw [Text.sliceBytes_bytesBefore, List.drop_eq_getElem_cons hlt, Nat.add_sub_cancel_left,
      List.take_one, List.head?_cons, Option.toList_some]
  exact hslice

/-- The replacement that escapes goes through a text character by character. -/
lemma replaceMatches_specialCharsRegex (t : Text) :
    specialCharsRegex.replaceMatches t "\\\\$0".toList = escapeEach t := by
  have hbody : specialCharsRegex.program.body = .regular (.set _) := rfl
  have hcontains (c : Char) : CharSet.contains _ c = isSpecialChar c :=
    contains_foldl_union "\\|^$()\x7b\x7d*+?[]-.".toList .nothing c
  have heach := Regex.replaceFrom_set hbody (f := fun c => ['\\', c])
    (fun i c hi _ => by rw [expand_backslash, groupText_single t hi])
    (List.drop_zero (l := t)) (Nat.lt_add_of_pos_right (n := t.length) (k := 2) (by decide)) none
  simp only [hcontains] at heach
  exact heach

/-- Escaping puts a backslash in front of each special character and copies all others. -/
theorem escapePattern_eq_escapeEach (t : Text) : escapePattern t = escapeEach t := by
  rw [escapePattern, specialChars_eq]
  exact replaceMatches_specialCharsRegex t

/-- A text without the backslashes that stand in front of characters. -/
def unescape : Text → Text
  | '\\' :: c :: t => c :: unescape t
  | c :: t => c :: unescape t
  | [] => []

lemma unescape_cons {c : Char} (hc : c ≠ '\\') (t : Text) : unescape (c :: t) = c :: unescape t := by
  rw [unescape]
  exact fun _ _ h => absurd h hc

lemma unescape_escapeEach (t : Text) : unescape (escapeEach t) = t := by
  induction t with
  | nil => rfl
  | cons c t ih =>
    have hsplit : escapeEach (c :: t) = (if isSpecialChar c then ['\\', c] else [c]) ++ escapeEach t :=
      List.flatMap_cons
    rw [hsplit]
    by_cases hc : isSpecialChar c = true
    · simp [hc, unescape, ih]
    · have hne : c ≠ '\\' := by
        rintro rfl
        exact hc (by decide)
      simp [hc, unescape_cons hne, ih]

/-- The regular expression for the special characters is accepted, and its replacement is never broken
off. What it makes of a text is the text with a backslash in front of each of them, part by part, and
without these backslashes the text is as it was. -/
theorem escapePattern_inserts_backslashes (t : Text) :
    (∃ r, specialChars = some r ∧ r.replaceBreaks t = false ∧
      r.replaceMatches t "\\\\$0".toList = escapeEach t) ∧
    escapePattern t = (t.flatMap fun c =>
      if c ∈ "\\|^$()\x7b\x7d*+?[]-.".toList then ['\\', c] else [c]) ∧
    (∀ u, escapePattern (t ++ u) = escapePattern t ++ escapePattern u) ∧
    unescape (escapePattern t) = t := by
  refine ⟨⟨specialCharsRegex, specialChars_eq, rfl, replaceMatches_specialCharsRegex t⟩, ?_, ?_, ?_⟩
  · simp only [escapePattern_eq_escapeEach, escapeEach, isSpecialChar, List.contains_iff_mem]
  · intro u
    simp only [escapePattern_eq_escapeEach]
    exact List.flatMap_append
  · rw [escapePattern_eq_escapeEach]
    exact unescape_escapeEach t

end PatternAlgebra
