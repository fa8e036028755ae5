import PatternAlgebra.Proofs.Engine.Order
import PatternAlgebra.Proofs.Engine.RowSearch
import PatternAlgebra.Proofs.Matcher.Fragments
import PatternAlgebra.Proofs.Regex.Literal
import PatternAlgebra.Search.Literal

/-! Searches by rows of items. A row that spells a text leads over the places where that text
occurs. What is located is where the row first leads anywhere. -/
namespace PatternAlgebra

/-- Whether `s` stands in `t` at position `i`. -/
def Text.OccursAt (s t : Text) (i : ℕ) : Prop := ∃ u v, t = u ++ s ++ v ∧ u.length = i

namespace Text.OccursAt

variable {s t : Text} {i : ℕ} {c : Char}

lemma iff_drop : s.OccursAt t i ↔ i ≤ t.length ∧ s <+: t.drop i := by
  constructor
  · rintro ⟨u, v, rfl, rfl⟩
    simp
  · rintro ⟨hi, v, hv⟩
    refine ⟨t.take i, v, ?_, List.length_take_of_le hi⟩
    rw [List.append_assoc, hv, List.take_append_drop]

lemma add_length_le (h : s.OccursAt t i) : i + s.length ≤ t.length := by
  obtain ⟨u, v, rfl, rfl⟩ := h
  simp

lemma le_length (h : s.OccursAt t i) : i ≤ t.length := (iff_drop.mp h).1

lemma nil_iff : OccursAt [] t i ↔ i ≤ t.length := by
  rw [iff_drop]
  exact and_iff_left List.nil_prefix

lemma cons_iff : OccursAt (c :: s) t i ↔ t[i]? = some c ∧ s.OccursAt t (i + 1) := by
  simp only [iff_drop]
  constructor
  · rintro ⟨hi, v, hv⟩
    have hget : t[i]? = some c := by
      rw [← List.head?_drop, ← hv]
      rfl
    have hlt := (List.getElem?_eq_some_iff.mp hget).1
    refine ⟨hget, hlt, v, ?_⟩
    rw [← List.tail_drop, ← hv]
    rfl
  · rintro ⟨hget, -, v, hv⟩
    obtain ⟨hlt, rfl⟩ := List.getElem?_eq_some_iff.mp hget
    refine ⟨hlt.le, v, ?_⟩
    rw [List.drop_eq_getElem_cons hlt, ← hv]
    rfl

lemma append_iff {u : Text} :
    OccursAt (u ++ s) t i ↔ u.OccursAt t i ∧ s.OccursAt t (i + u.length) := by
  induction u generalizing i with
  | nil =>
    rw [List.nil_append, List.length_nil, Nat.add_zero, nil_iff]
    exact (and_iff_right_of_imp le_length).symm
  | cons c u ih =>
    rw [List.cons_append, cons_iff, cons_iff, ih, and_assoc, List.length_cons, Nat.add_comm u.length,
      Nat.add_assoc]

end Text.OccursAt

lemma Text.byteLength_replicate (n : ℕ) (c : Char) :
    byteLength (List.replicate n c) = n * c.utf8Size := by
  induction n with
  | zero => rw [List.replicate_zero, byteLength, Nat.zero_mul]
  | succ n ih =>
    rw [List.replicate_succ, byteLength, ih]
    ring

/-- A run of members of a set leads over texts that are made of them. -/
lemma Engine.CharSet.run_iff_occursAt {set : CharSet} {t : Text} {i j : ℕ} (hi : i ≤ t.length) :
    Relation.ReflTransGen (set.Takes t) i j ↔
      ∃ u : Text, u.OccursAt t i ∧ (∀ c ∈ u, set.contains c = true) ∧ j = i + u.length := by
  constructor
  · intro hrun
    induction hrun using Relation.ReflTransGen.head_induction_on with
    | refl => exact ⟨[], Text.OccursAt.nil_iff.mpr hi, by simp, rfl⟩
    | head htakes _ ih =>
      obtain ⟨c, hget, hc, rfl⟩ := htakes
      obtain ⟨u, hu, hall, rfl⟩ := ih (List.getElem?_eq_some_iff.mp hget).1
      refine ⟨c :: u, Text.OccursAt.cons_iff.mpr ⟨hget, hu⟩, List.forall_mem_cons.mpr ⟨hc, hall⟩, ?_⟩
      rw [List.length_cons]
      omega
  · rintro ⟨u, hu, hall, rfl⟩
    induction u generalizing i with
    | nil => exact .refl
    | cons c u ih =>
      obtain ⟨hget, hrest⟩ := Text.OccursAt.cons_iff.mp hu
      obtain ⟨hc, hall⟩ := List.forall_mem_cons.mp hall
      have hrun := ih (List.getElem?_eq_some_iff.mp hget).1 hrest hall
      rw [List.length_cons, Nat.add_comm u.length, ← Nat.add_assoc]
      exact .head ⟨c, hget, hc, rfl⟩ hrun

namespace Engine.Item

variable {t : Text} {i j : ℕ}

/-- The items that spell a text. -/
def chars (s : Text) : List Item := s.map fun c => .one (.char c)

lemma flatMap_text_chars (s : Text) : (chars s).flatMap text = escapeEach s := by
  induction s with
  | nil => rfl
  | cons c s ih =>
    rw [Sign.escapeEach_cons, ← ih]
    rfl

lemma text_ne_nil (x : Item) : x.text ≠ [] := by
  cases x with
  | one a => exact List.length_pos_iff.mp a.length_text_pos
  | _ => simp [text]

lemma flatMap_text_ne_nil {xs : List Item} (h : xs ≠ []) : xs.flatMap text ≠ [] := by
  obtain ⟨x, xs, rfl⟩ := List.exists_cons_of_ne_nil h
  rw [List.flatMap_cons]
  exact List.append_ne_nil_of_left_ne_nil x.text_ne_nil _

lemma chars_ne_nil {s : Text} (hs : s ≠ []) : chars s ≠ [] := by simpa [chars] using hs

lemma isEasy_chars (s : Text) : (chars s).all isEasy = true := by
  simp [chars, isEasy, expr, Expr.isEasy]

lemma isRun_of_mem_chars {s : Text} : ∀ x ∈ chars s, x.isRun = false := by
  simp [chars, isRun]

lemma sum_bytes_chars (backward : Bool) (s : Text) :
    ((chars s).map (bytes backward)).sum = 32 * s.byteLength := by
  induction s with
  | nil => rfl
  | cons c s ih =>
    rw [Text.byteLength, Nat.mul_add, ← ih]
    rfl

lemma rowLeads_chars {s : Text} (hi : i ≤ t.length) :
    RowLeads t (chars s) i j ↔ s.OccursAt t i ∧ j = i + s.length := by
  induction s generalizing i with
  | nil => simp [chars, RowLeads, Text.OccursAt.nil_iff, hi]
  | cons c s ih =>
    rw [Text.OccursAt.cons_iff]
    constructor
    · rintro ⟨_, ⟨d, hget, hd, rfl⟩, hrest⟩
      have hlt := (List.getElem?_eq_some_iff.mp hget).1
      obtain rfl : d = c := beq_iff_eq.mp hd
      obtain ⟨hoccurs, rfl⟩ := (ih hlt).mp hrest
      exact ⟨⟨hget, hoccurs⟩, by rw [List.length_cons]; omega⟩
    · rintro ⟨⟨hget, hoccurs⟩, rfl⟩
      have hlt := (List.getElem?_eq_some_iff.mp hget).1
      refine ⟨i + 1, ⟨c, hget, beq_self_eq_true c, rfl⟩, (ih hlt).mpr ⟨hoccurs, ?_⟩⟩
      rw [List.length_cons]
      omega

end Engine.Item

open Engine

namespace Search

/-- A literal is written as a row of characters. -/
lemma escapePattern_eq_flatMap (s : Text) : escapePattern s = (Item.chars s).flatMap Item.text := by
  rw [escapePattern_eq_escapeEach, Item.flatMap_text_chars]

lemma compiled_of_compile? {g : Text} {flags : EngineFlags} {r : Regex}
    (h : Regex.compile? g flags = some r) : compiled g flags = .regex r := by
  rw [compiled, h]

lemma compiled_of_compile?_eq_none {g : Text} {flags : EngineFlags}
    (h : Regex.compile? g flags = none) : compiled g flags = .nothing := by
  rw [compiled, h]

/-- A grammar that is not empty compiles just if the engine takes it. -/
lemma compile?_of_ne_nil {g : Text} (hg : g ≠ []) (flags : EngineFlags) :
    Regex.compile? g flags =
      (Program.ofGrammar? (flags.directive ++ g)).map fun p => ⟨g, flags, p⟩ := by
  have hempty : g.isEmpty = false := List.isEmpty_eq_false_iff.mpr hg
  rw [Regex.compile?, Regex.compile, hempty, if_neg Bool.false_ne_true]
  cases Program.ofGrammar? (flags.directive ++ g) <;> rfl

/-- The regular expression for a row that needs no backtracking. -/
def rowRegex (xs : List Item) : Regex where
  grammar := xs.flatMap Item.text
  flags := .ofCase true
  program := Item.rowProgram xs

section Compile

variable {xs : List Item} (hne : xs ≠ []) (heasy : xs.all Item.isEasy = true)
include hne heasy

/-- A row that needs no backtracking compiles unless it is too large. -/
lemma compile?_row :
    Regex.compile? (xs.flatMap Item.text) (.ofCase true) =
      if (Item.rowRegular xs).size ≤ Regular.sizeLimit then some (rowRegex xs) else none := by
  have hrow := Item.ofGrammar?_row heasy
  have hdirective : (EngineFlags.ofCase true).directive = [] := rfl
  rw [compile?_of_ne_nil (Item.flatMap_text_ne_nil hne), hdirective, List.nil_append, hrow]
  split_ifs <;> rfl

lemma eq_rowRegex_of_compile? {r : Regex}
    (h : Regex.compile? (xs.flatMap Item.text) (.ofCase true) = some r) : r = rowRegex xs := by
  rw [compile?_row hne heasy, Option.ite_none_right_eq_some] at h
  exact (Option.some_inj.mp h.2).symm

lemma exists_compile?_row
    (hbytes : ∀ backward, (xs.map (Item.bytes backward)).sum + 208 ≤ Regular.sizeLimit) :
    ∃ r, Regex.compile? (xs.flatMap Item.text) (.ofCase true) = some r :=
  ⟨_, (compile?_row hne heasy).trans (if_pos (Item.size_rowRegular_le hne hbytes))⟩

lemma compile?_row_eq_none (hlong : Regular.sizeLimit < (xs.map (Item.bytes false)).sum) :
    Regex.compile? (xs.flatMap Item.text) (.ofCase true) = none :=
  (compile?_row hne heasy).trans
    (if_neg (not_le.mpr (hlong.trans_le (Item.le_size_rowRegular xs))))

end Compile

end Search

namespace Regex

variable {r : Regex} {t : Text}

lemma locate_of_missing (h : r.program.search t.toArray 0 = .missing) : r.locate t = none := by
  rw [locate, Program.find?, h]
  rfl

lemma isSome_locate_iff :
    (r.locate t).isSome = true ↔ ∃ m, r.program.search t.toArray 0 = .found m := by
  rw [locate, Program.find?]
  cases r.program.search t.toArray 0 <;> simp [Answer.toOption, CharRange.ofBytes?_toByteSpan]

lemma locate_of_found {m : Match Span} (h : r.program.search t.toArray 0 = .found m)
    (hstop : m.whole.stop ≤ t.length) :
    r.locate t = some (.ofBounds m.whole.start m.whole.stop) := by
  have hle := (Program.search_found h).1
  rw [locate, Program.find?, h]
  simp only [Answer.toOption, Option.map_some, Option.bind_some, CharRange.ofBytes?_toByteSpan,
    CharRange.ofByteSpan_toByteSpan, Nat.min_eq_left hstop, Nat.min_eq_left (hle.trans hstop)]

end Regex

namespace Search

/-- What is located is the first match of a row, with its first outcome. -/
lemma locate_row (xs : List Item) (t : Text) :
    (∀ i ≤ t.length, ∀ j, ¬Item.RowLeads t xs i j) ∧ (rowRegex xs).locate t = none ∨
      ∃ i p, i ≤ t.length ∧ (∀ k < i, ∀ j, ¬Item.RowLeads t xs k j) ∧
        Item.RowLeads t xs i p.pos ∧
        (Context.ofText t 0).first? (Item.rowRegular xs) i = some p ∧
          (rowRegex xs).locate t = some (.ofBounds i p.pos) := by
  rcases Item.search_rowProgram t 0 xs with
    ⟨hnone, hmissing⟩ | ⟨i, p, -, hi, hleast, hlead, hp, hfound⟩
  · exact Or.inl ⟨fun i => hnone i (Nat.zero_le i), Regex.locate_of_missing hmissing⟩
  · refine Or.inr ⟨i, p, hi, fun k => hleast k (Nat.zero_le k), hlead, hp, ?_⟩
    exact Regex.locate_of_found (r := rowRegex xs) hfound (hlead.le_length hi)

/-- What is located, where it is told by the one of some positions that is chosen. -/
lemma located_iff {located : Option CharRange} {P Chosen : ℕ → Prop} {range : ℕ → CharRange}
    (hchosen : ∀ i, Chosen i → P i) (hunique : ∀ i j, Chosen i → Chosen j → i = j)
    (h : (∀ i, ¬P i) ∧ located = none ∨ ∃ i, Chosen i ∧ located = some (range i)) :
    (∀ r, located = some r ↔ ∃ i, Chosen i ∧ r = range i) ∧ (located = none ↔ ∀ i, ¬P i) := by
  rcases h with ⟨hnone, rfl⟩ | ⟨i, hi, rfl⟩
  · refine ⟨fun r => ⟨nofun, ?_⟩, iff_of_true rfl hnone⟩
    rintro ⟨i, hi, -⟩
    exact absurd (hchosen i hi) (hnone i)
  · refine ⟨fun r => ?_, iff_of_false (Option.some_ne_none _) fun hnone => hnone i (hchosen i hi)⟩
    rw [Option.some_inj]
    constructor
    · rintro rfl
      exact ⟨i, hi, rfl⟩
    · rintro ⟨j, hj, rfl⟩
      rw [hunique i j hi hj]

end Search

end PatternAlgebra
