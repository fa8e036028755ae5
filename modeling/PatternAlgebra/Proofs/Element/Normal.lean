import Mathlib.Tactic.Lemma
import PatternAlgebra.Element.Reading

/-! The pieces of an element, as they stand in a row in its normal form. Each of them is in normal
form already. -/
namespace PatternAlgebra

namespace Element

lemma piecesOfEach_singleton (e : Element) : piecesOfEach [e] = e.pieces := by
  rw [piecesOfEach, piecesOfEach, List.append_nil]

lemma piecesOfEach_append (es fs : List Element) :
    piecesOfEach (es ++ fs) = piecesOfEach es ++ piecesOfEach fs := by
  induction es with
  | nil => rw [piecesOfEach, List.nil_append, List.nil_append]
  | cons e es ih => rw [List.cons_append, piecesOfEach, piecesOfEach, ih, List.append_assoc]

lemma piecesOfEach_characters (t : Text) :
    piecesOfEach (t.map fun c => .text [c]) = t.map fun c => .text [c] := by
  induction t with
  | nil => rw [List.map_nil, piecesOfEach]
  | cons c t ih => rw [List.map_cons, piecesOfEach, ih, pieces]; rfl

mutual

/-- Pieces are their own pieces. -/
lemma piecesOfEach_pieces (e : Element) : piecesOfEach e.pieces = e.pieces := by
  cases e with
  | text t => rw [pieces, piecesOfEach_characters]
  | charIn cs =>
    match cs with
    | [] | [_] | _ :: _ :: _ => rfl
  | sequence items => rw [pieces, piecesOfEach_piecesOfEach]
  | grouping body => rw [pieces, piecesOfEach_pieces]
  | either es =>
    match es with
    | [] => rfl
    | [e] => rw [pieces, piecesOfEach_pieces]
    | e :: f :: es =>
      have hrows := rows_rows (e :: f :: es)
      simp only [pieces, rows, piecesOfEach, List.append_nil] at hrows ⊢
      rw [hrows]
  | repeated body _ | capture body | atomic body | lookAhead body | notAhead body
  | lookBehind body | notBehind body =>
    have hbody := piecesOfEach_pieces body
    simp only [pieces, piecesOfEach, hbody, List.append_nil]
  | _ => rfl

lemma piecesOfEach_piecesOfEach (es : List Element) :
    piecesOfEach (piecesOfEach es) = piecesOfEach es := by
  cases es with
  | nil => rfl
  | cons e es =>
    rw [piecesOfEach, piecesOfEach_append, piecesOfEach_pieces e, piecesOfEach_piecesOfEach es]

lemma rows_rows (es : List Element) : rows (rows es) = rows es := by
  cases es with
  | nil => rfl
  | cons e es => rw [rows, rows, pieces, piecesOfEach_pieces e, rows_rows es]

end

/-- A normal form is its own normal form. -/
theorem normal_normal (e : Element) : e.normal.normal = e.normal := by
  rw [normal, normal, pieces, piecesOfEach_pieces]

end Element

end PatternAlgebra
