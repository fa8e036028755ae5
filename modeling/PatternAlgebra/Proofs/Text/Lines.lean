import Mathlib
import PatternAlgebra.Text.Lines

/-! Cutting into lines. What a line feed or a carriage return is in UTF-8 stands in the form of no
other character, so that the UTF-8 form of a text is cut where the text is, and each of its lines is
the form of a line. -/
namespace PatternAlgebra

namespace Lines

variable {α : Type} [DecidableEq α] {lf cr : α}

lemma splitFrom_nil (line : List α) :
    splitFrom lf cr line [] = if line = [] then [] else [line.reverse] := by
  cases line <;> simp [splitFrom]

lemma splitFrom_cons (line : List α) (a : α) (rest : List α) :
    splitFrom lf cr line (a :: rest) =
      if a = lf then (dropReturn cr line).reverse :: splitFrom lf cr [] rest
      else splitFrom lf cr (a :: line) rest := by
  cases line <;> rw [splitFrom]

lemma splitFrom_append {items : List α} (h : lf ∉ items) (line rest : List α) :
    splitFrom lf cr line (items ++ rest) = splitFrom lf cr (items.reverse ++ line) rest := by
  induction items generalizing line with
  | nil => rfl
  | cons a items ih =>
    have ha : a ≠ lf := (List.ne_of_not_mem_cons h).symm
    rw [List.cons_append, splitFrom_cons, if_neg ha, ih (List.not_mem_of_not_mem_cons h),
      List.reverse_cons, List.append_assoc, List.singleton_append]

lemma dropReturn_append {items : List α} (hne : items ≠ []) (h : cr ∉ items) (line : List α) :
    dropReturn cr (items ++ line) = items ++ line := by
  cases items with
  | nil => contradiction
  | cons a items => rw [List.cons_append, dropReturn, if_neg (List.ne_of_not_mem_cons h).symm]

end Lines

namespace Text

open Lines

/-- The UTF-8 form. -/
def utf8 (t : Text) : List UInt8 := t.flatMap String.utf8EncodeChar

lemma utf8_cons (c : Char) (t : Text) : utf8 (c :: t) = String.utf8EncodeChar c ++ utf8 t :=
  List.flatMap_cons

lemma utf8_append (s t : Text) : utf8 (s ++ t) = utf8 s ++ utf8 t := List.flatMap_append

lemma utf8_eq_nil_iff {t : Text} : utf8 t = [] ↔ t = [] := by
  cases t with
  | nil => simp [utf8]
  | cons c t => simp [utf8_cons]

/-- A byte of ASCII stands in the UTF-8 form of its own character alone. -/
lemma toNat_eq_of_mem_utf8EncodeChar {b : UInt8} (hb : b.toNat < 128) {c : Char}
    (h : b ∈ String.utf8EncodeChar c) : c.toNat = b.toNat := by
  have hc : c.val.toNat = c.toNat := rfl
  have hbyte {n : ℕ} (hn : b = UInt8.ofNat n) : b.toNat = n % 256 := by rw [hn, UInt8.toNat_ofNat']
  simp only [String.utf8EncodeChar] at h
  split_ifs at h with hone htwo hthree <;> simp only [List.mem_cons, List.not_mem_nil, or_false] at h
  · have heq := hbyte h
    omega
  -- no byte of a longer form is one of ASCII
  · rcases h with hn | hn <;> have heq := hbyte hn <;> omega
  · rcases h with hn | hn | hn <;> have heq := hbyte hn <;> omega
  · rcases h with hn | hn | hn | hn <;> have heq := hbyte hn <;> omega

lemma not_mem_utf8EncodeChar {a c : Char} (ha : a.toNat < 128) (h : c ≠ a) :
    UInt8.ofNat a.toNat ∉ String.utf8EncodeChar c := by
  intro hmem
  have hbyte : (UInt8.ofNat a.toNat).toNat = a.toNat := by
    rw [UInt8.toNat_ofNat']
    omega
  have hnat := toNat_eq_of_mem_utf8EncodeChar (by omega) hmem
  exact h (Char.ext (UInt32.toNat_inj.mp (hnat.trans hbyte)))

lemma toByteArray_utf8 (t : Text) : (⟨t.utf8.toArray⟩ : ByteArray) = (String.ofList t).toByteArray := by
  rw [String.toByteArray_ofList, List.utf8Encode]
  exact ByteArray.ext List.data_toByteArray.symm

lemma fromUTF8?_toByteArray (s : String) : String.fromUTF8? s.toByteArray = some s := by
  rw [String.fromUTF8?, dif_pos s.isValidUTF8]
  rfl

lemma toByteArray_of_fromUTF8? {bytes : ByteArray} {s : String} (h : String.fromUTF8? bytes = some s) :
    s.toByteArray = bytes := by
  rw [String.fromUTF8?] at h
  split_ifs at h with hvalid
  rw [← Option.some.inj h]
  rfl

/-- The bytes of a text are its UTF-8 form. -/
lemma ofBytes?_eq_some_iff {bytes : List UInt8} {t : Text} :
    ofBytes? bytes = some t ↔ bytes = t.utf8 := by
  rw [ofBytes?, Option.map_eq_some_iff]
  constructor
  · rintro ⟨s, hs, rfl⟩
    have hform := toByteArray_utf8 s.toList
    rw [String.ofList_toList, toByteArray_of_fromUTF8? hs] at hform
    simpa using (congrArg ByteArray.data hform).symm
  · rintro rfl
    exact ⟨.ofList t, by rw [toByteArray_utf8, fromUTF8?_toByteArray], String.toList_ofList⟩

/-! ### The cut -/

lemma utf8_reverse_cons (c : Char) (line : Text) :
    (utf8 (c :: line).reverse).reverse =
      (String.utf8EncodeChar c).reverse ++ (utf8 line.reverse).reverse := by
  rw [List.reverse_cons, utf8_append, List.reverse_append, utf8_cons]
  simp [utf8]

lemma dropReturn_utf8 (line : Text) :
    (dropReturn 13 (utf8 line.reverse).reverse).reverse = utf8 (dropReturn '\r' line).reverse := by
  cases line with
  | nil => rfl
  | cons c line =>
    rw [utf8_reverse_cons, dropReturn]
    by_cases hc : c = '\r'
    · subst hc
      have hreturn : String.utf8EncodeChar '\r' = [13] := by decide
      rw [if_pos rfl, hreturn, List.reverse_singleton, List.singleton_append, dropReturn, if_pos rfl,
        List.reverse_reverse]
    · have hmem : 13 ∉ (String.utf8EncodeChar c).reverse := by
        rw [List.mem_reverse]
        exact not_mem_utf8EncodeChar (by decide) hc
      have hne : (String.utf8EncodeChar c).reverse ≠ [] :=
        List.reverse_ne_nil_iff.mpr String.utf8EncodeChar_ne_nil
      rw [if_neg hc, dropReturn_append hne hmem, ← utf8_reverse_cons, List.reverse_reverse]

/-- The induction is on the rest of the text; `line` is the part of the current line in front of
it. -/
lemma splitFrom_utf8 (line t : Text) :
    splitFrom 10 13 (utf8 line.reverse).reverse t.utf8 = (splitFrom '\n' '\r' line t).map utf8 := by
  induction t generalizing line with
  | nil =>
    have hnil : utf8 [] = [] := rfl
    have hempty : (utf8 line.reverse).reverse = [] ↔ line = [] := by
      rw [List.reverse_eq_nil_iff, utf8_eq_nil_iff, List.reverse_eq_nil_iff]
    rw [hnil, splitFrom_nil, splitFrom_nil]
    simp only [hempty, List.reverse_reverse]
    split_ifs <;> rfl
  | cons c t ih =>
    rw [utf8_cons, splitFrom_cons]
    by_cases hc : c = '\n'
    · subst hc
      have hfeed : String.utf8EncodeChar '\n' = [10] := by decide
      rw [hfeed, List.singleton_append, splitFrom_cons, if_pos rfl, if_pos rfl, dropReturn_utf8,
        List.map_cons]
      exact congrArg _ (ih [])
    · have hmem : 10 ∉ String.utf8EncodeChar c := not_mem_utf8EncodeChar (by decide) hc
      rw [if_neg hc, splitFrom_append hmem, ← utf8_reverse_cons, ih]

/-- The lines of the UTF-8 form of a text are its lines. -/
theorem linesOfBytes_eq {bytes : List UInt8} {t : Text} (h : ofBytes? bytes = some t) :
    linesOfBytes bytes = t.lines.map some := by
  have hline (line : Text) : ofBytes? line.utf8 = some line := ofBytes?_eq_some_iff.mpr rfl
  have hcut : Lines.split 10 13 t.utf8 = t.lines.map utf8 := splitFrom_utf8 [] t
  rw [ofBytes?_eq_some_iff.mp h, linesOfBytes, hcut, List.map_map]
  exact List.map_congr_left fun line _ => hline line

end Text

end PatternAlgebra
