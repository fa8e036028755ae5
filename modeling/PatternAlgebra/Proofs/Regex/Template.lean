import Mathlib
import PatternAlgebra.Engine.Expansion
import PatternAlgebra.Regex.Template

/-! Templates. What the engine expands is what the pieces say, whatever their texts hold, and an
escaped text is one literal piece that inserts it as it is. -/
namespace PatternAlgebra

namespace Text

lemma isDigit_of_mem_decimal {n : ℕ} {c : Char} (h : c ∈ decimal n) : c.isDigit = true :=
  Nat.isDigit_of_mem_toDigits (by decide) le_rfl h

/-- What is true of all digits is true of all characters of a number. -/
lemma forall_mem_toDigits {P : Char → Prop} {b : ℕ} (hb : 1 < b) (h : ∀ d < b, P (Nat.digitChar d))
    (n : ℕ) : ∀ c ∈ Nat.toDigits b n, P c := by
  induction n using Nat.strong_induction_on with
  | _ n ih =>
    rw [Nat.toDigits_eq_if hb]
    split_ifs with hlt
    · simpa using h n hlt
    · have hlast := h (n % b) (Nat.mod_lt n (by omega))
      exact List.forall_mem_append.mpr ⟨ih _ (Nat.div_lt_self (by omega) hb), by simpa using hlast⟩

lemma decimal_ne_nil (n : ℕ) : decimal n ≠ [] := Nat.toDigits_ne_nil

lemma decimalValue_decimal (n : ℕ) : decimalValue (decimal n) = n := by
  have hfold : decimalValue (decimal n) = Nat.ofDigitChars 10 (decimal n) 0 := by
    unfold decimalValue Nat.ofDigitChars
    congr 1
    funext v d
    rw [Nat.mul_comm]
    rfl
  rw [hfold]
  exact Nat.ofDigitChars_ten_toDigits

end Text

namespace Engine

lemma expand_encodeLiteral (group : Text → Text) (t u : Text) :
    expand group (Template.encodeLiteral t ++ u) = t ++ expand group u := by
  induction t with
  | nil => rfl
  | cons c t ih =>
    have hsplit : Template.encodeLiteral (c :: t) ++ u =
        (if c = '$' then ['$', '$'] else [c]) ++ (Template.encodeLiteral t ++ u) := by
      simp [Template.encodeLiteral]
    rw [hsplit]
    by_cases hc : c = '$'
    · subst hc
      simpa [expand] using ih
    · simpa [hc, expand] using ih

lemma expandName_of_not_mem (group : Text → Text) {name : Text} (h : '\x7d' ∉ name)
    (read u : Text) :
    expandName group read (name ++ '\x7d' :: u) =
      group (read.reverse ++ name) ++ expand group u := by
  induction name generalizing read with
  | nil => simp [expandName]
  | cons c name ih =>
    obtain ⟨hc, hname⟩ := not_or.mp (List.mem_cons.not.mp h)
    have hstep : expandName group read (c :: (name ++ '\x7d' :: u)) =
        expandName group (c :: read) (name ++ '\x7d' :: u) := by
      rw [expandName]
      exact fun he => hc he.symm
    rw [List.cons_append, hstep, ih hname]
    simp

lemma brace_not_mem_decimal (n : ℕ) : '\x7d' ∉ Text.decimal n := by
  intro h
  exact absurd (Text.isDigit_of_mem_decimal h) (by decide)

/-- The engine makes of the encoded pieces what the pieces say. -/
theorem expand_encode (group : Text → Text) (pieces : List Template.Piece) :
    expand group (Template.encode pieces) =
      Template.expand (fun n => group (Text.decimal n)) pieces := by
  induction pieces with
  | nil => rfl
  | cons piece pieces ih =>
    cases piece with
    | literal t =>
      have hsplit : Template.encode (.literal t :: pieces) =
          Template.encodeLiteral t ++ Template.encode pieces := rfl
      rw [hsplit, expand_encodeLiteral, ih]
      rfl
    | group n =>
      have hsplit : Template.encode (.group n :: pieces) =
          '$' :: '\x7b' :: (Text.decimal n ++ '\x7d' :: Template.encode pieces) := by
        simp [Template.encode]
      rw [hsplit, expand, expandName_of_not_mem group (brace_not_mem_decimal n), ih]
      rfl

end Engine

namespace Template

lemma foldl_read_escape (groups : ℕ) (t : Text) {r : Reader} (h : r.mode = .plain) :
    (escape t).foldl (Reader.read groups) r = { r with literal := t.reverse ++ r.literal } := by
  induction t generalizing r with
  | nil => rfl
  | cons c t ih =>
    have hsplit :
        escape (c :: t) = (if c = '\\' ∨ c = '$' then ['\\', c] else [c]) ++ escape t := rfl
    have hread : (if c = '\\' ∨ c = '$' then ['\\', c] else [c]).foldl (Reader.read groups) r =
        r.addChar c := by
      by_cases hc : c = '\\' ∨ c = '$'
      · simp [hc, Reader.read, h, Reader.readPlain, Reader.addChar]
      · obtain ⟨hslash, hdollar⟩ := not_or.mp hc
        simp [Reader.read, h, Reader.readPlain, hslash, hdollar]
    have hplain : (r.addChar c).mode = .plain := rfl
    rw [hsplit, List.foldl_append, hread, ih hplain, Reader.addChar, ← h]
    simp

/-- An escaped text is a single literal, or nothing at all. -/
lemma parse_escape (groups : ℕ) (t : Text) :
    parse groups (escape t) = if t = [] then [] else [.literal t] := by
  have hplain : ({} : Reader).mode = .plain := rfl
  rw [parse, foldl_read_escape groups t hplain]
  cases t with
  | nil => rfl
  | cons c t => simp [Reader.finish, Reader.endLiteral]

/-- An escaped text inserts itself. -/
theorem expand_escape (groups : ℕ) (group : Text → Text) (t : Text) :
    Engine.expand group (encode (parse groups (escape t))) = t := by
  rw [Engine.expand_encode, parse_escape]
  split_ifs with ht
  · exact ht.symm
  · simp [expand]

end Template

end PatternAlgebra
