import PatternAlgebra.Proofs.Regex.Interpretation

/-! Templates that mean given pieces. A rendered template has a backslash before each character of
its literals, so no character of them is taken for a part of a reference. What reads back is the
list of pieces with neighbouring literals joined; the lists that read back as they are, are just
those that templates are made of. -/
namespace PatternAlgebra

namespace Text

lemma digitValue_lt {c : Char} (h : c.isDigit = true) : digitValue c < 10 := by
  have hle : c.toNat ≤ '9'.toNat := (Char.isDigit_iff_toNat.mp h).2
  exact (Nat.sub_le_sub_right hle _).trans_lt (by decide)

lemma digitValue_digitChar {n : ℕ} (h : n < 10) : digitValue (Nat.digitChar n) = n :=
  Nat.toNat_digitChar_sub_48_of_lt_ten h

end Text

namespace Template

variable {groups n : ℕ} {pieces : List Piece} {r : Reader}

/-- A template for a piece: a backslash before each character of a literal, a dollar sign before
the number of a group. -/
def Piece.render : Piece → Text
  | literal t => t.flatMap fun c => ['\\', c]
  | group n => '$' :: Text.decimal n

def render (pieces : List Piece) : Text := pieces.flatMap Piece.render

def Piece.isLiteral : Piece → Bool
  | literal _ => true
  | group _ => false

/-- No literal is empty, and no two literals are neighbours. -/
structure Canonical (pieces : List Piece) : Prop where
  nonempty : .literal [] ∉ pieces
  apart : pieces.IsChain fun p q => ¬(p.isLiteral = true ∧ q.isLiteral = true)

/-- The number of each group is below the count of groups, or has a single digit. -/
def Numbered (groups : ℕ) (pieces : List Piece) : Prop :=
  ∀ n, .group n ∈ pieces → n < max groups 10

/-- Pieces with a literal in front, which is joined with one that they begin with. -/
def joinLiteral (t : Text) : List Piece → List Piece
  | .literal u :: pieces => .literal (t ++ u) :: pieces
  | pieces => if t = [] then pieces else .literal t :: pieces

/-- The same pieces with neighbouring literals joined and without empty ones. -/
def joined : List Piece → List Piece
  | [] => []
  | .literal t :: pieces => joinLiteral t (joined pieces)
  | .group n :: pieces => .group n :: joined pieces

/-! ### Lists of pieces -/

lemma Numbered.tail {p : Piece} (h : Numbered groups (p :: pieces)) : Numbered groups pieces :=
  fun n hn => h n (List.mem_cons_of_mem p hn)

lemma canonical_nil : Canonical [] := ⟨List.not_mem_nil, .nil⟩

lemma canonical_cons_group (n : ℕ) (pieces : List Piece) :
    Canonical (.group n :: pieces) ↔ Canonical pieces := by
  constructor
  · intro h
    exact ⟨fun hmem => h.nonempty (List.mem_cons_of_mem _ hmem), (List.isChain_cons.mp h.apart).2⟩
  · intro h
    refine ⟨by simpa using h.nonempty, List.isChain_cons.mpr ⟨?_, h.apart⟩⟩
    simp [Piece.isLiteral]

lemma canonical_cons_literal (t : Text) (pieces : List Piece) :
    Canonical (.literal t :: pieces) ↔
      t ≠ [] ∧ (∀ p ∈ pieces.head?, p.isLiteral = false) ∧ Canonical pieces := by
  constructor
  · intro h
    obtain ⟨hhead, hchain⟩ := List.isChain_cons.mp h.apart
    refine ⟨?_, ?_, fun hmem => h.nonempty (List.mem_cons_of_mem _ hmem), hchain⟩
    · rintro rfl
      exact h.nonempty List.mem_cons_self
    · simpa [Piece.isLiteral] using hhead
  · rintro ⟨ht, hhead, h⟩
    refine ⟨?_, List.isChain_cons.mpr ⟨?_, h.apart⟩⟩
    · simpa [eq_comm, ht] using h.nonempty
    · simpa [Piece.isLiteral] using hhead

lemma Canonical.reverse (h : Canonical pieces) : Canonical pieces.reverse := by
  refine ⟨by simpa using h.nonempty, List.isChain_reverse.mpr ?_⟩
  simpa only [and_comm] using h.apart

lemma joinLiteral_nil (pieces : List Piece) : joinLiteral [] pieces = pieces := by
  unfold joinLiteral
  split <;> simp

lemma joinLiteral_append (t u : Text) (pieces : List Piece) :
    joinLiteral (t ++ u) pieces = joinLiteral t (joinLiteral u pieces) := by
  rcases pieces with _ | ⟨⟨v⟩ | ⟨n⟩, pieces⟩ <;> by_cases hu : u = [] <;> simp [joinLiteral, hu]

/-- There is nothing to join in front of a group or at the end. -/
lemma joinLiteral_of_apart (h : ∀ p ∈ pieces.head?, p.isLiteral = false) (t : Text) :
    joinLiteral t pieces = if t = [] then pieces else .literal t :: pieces := by
  rcases pieces with _ | ⟨⟨v⟩ | ⟨n⟩, pieces⟩
  · rfl
  · simp [Piece.isLiteral] at h
  · rfl

lemma joinLiteral_cons_group (t : Text) (n : ℕ) (pieces : List Piece) :
    joinLiteral t (.group n :: pieces) = joinLiteral t [] ++ .group n :: pieces := by
  by_cases ht : t = [] <;> simp [joinLiteral, ht]

lemma expand_joinLiteral (group : ℕ → Text) (t : Text) (pieces : List Piece) :
    expand group (joinLiteral t pieces) = t ++ expand group pieces := by
  rcases pieces with _ | ⟨⟨v⟩ | ⟨n⟩, pieces⟩ <;> by_cases ht : t = [] <;>
    simp [joinLiteral, expand, ht]

lemma expand_joined (group : ℕ → Text) (pieces : List Piece) :
    expand group (joined pieces) = expand group pieces := by
  induction pieces with
  | nil => rfl
  | cons piece pieces ih =>
    cases piece with
    | literal t => rw [joined, expand_joinLiteral, ih]; rfl
    | group n => exact congrArg (group n ++ ·) ih

lemma joined_of_canonical (h : Canonical pieces) : joined pieces = pieces := by
  induction pieces with
  | nil => rfl
  | cons piece pieces ih =>
    cases piece with
    | literal t =>
      obtain ⟨ht, hhead, hrest⟩ := (canonical_cons_literal t pieces).mp h
      rw [joined, ih hrest, joinLiteral_of_apart hhead, if_neg ht]
    | group n => rw [joined, ih ((canonical_cons_group n pieces).mp h)]

/-! ### What a reader has complete -/

namespace Reader

/-- The reader behind the number that it reads. -/
def closed (r : Reader) : Reader :=
  match r.mode with
  | .number n => r.addGroup n
  | _ => r

/-- The complete pieces of a reader, last first, when a literal may follow them. -/
structure Open (groups : ℕ) (pieces : List Piece) : Prop where
  canonical : Canonical pieces
  numbered : Numbered groups pieces
  apart : ∀ p ∈ pieces.head?, p.isLiteral = false

lemma open_nil (groups : ℕ) : Open groups [] :=
  ⟨canonical_nil, by simp [Numbered], by simp⟩

/-- A group may follow any pieces, and then a literal may follow. -/
lemma open_cons_group (hcanonical : Canonical pieces) (hnumbered : Numbered groups pieces)
    (hn : n < max groups 10) : Open groups (.group n :: pieces) := by
  refine ⟨(canonical_cons_group n pieces).mpr hcanonical, ?_, by simp [Piece.isLiteral]⟩
  intro m hm
  rcases List.mem_cons.mp hm with heq | hm
  · cases heq
    exact hn
  · exact hnumbered m hm

lemma Open.endLiteral (h : Open groups r.pieces) :
    Canonical r.endLiteral.pieces ∧ Numbered groups r.endLiteral.pieces := by
  unfold Reader.endLiteral
  split_ifs with hempty
  · exact ⟨h.canonical, h.numbered⟩
  · have hne : r.literal.reverse ≠ [] := by simpa using hempty
    refine ⟨(canonical_cons_literal _ _).mpr ⟨hne, h.apart, h.canonical⟩, fun m hm => ?_⟩
    exact h.numbered m (by simpa using hm)

lemma pieces_readPlain (r : Reader) (c : Char) : (r.readPlain c).closed.pieces = r.pieces := by
  unfold readPlain
  split_ifs <;> rfl

lemma pieces_addChar (r : Reader) (c : Char) : (r.addChar c).closed.pieces = r.pieces := rfl

/-- With one character more read, a literal may still follow the complete pieces. -/
lemma open_read (h : Open groups r.closed.pieces) (c : Char) :
    Open groups (r.read groups c).closed.pieces := by
  unfold read
  cases hmode : r.mode with
  | plain =>
    rw [closed, hmode] at h
    simpa only [pieces_readPlain] using h
  | backslash =>
    rw [closed, hmode] at h
    simpa only [pieces_addChar] using h
  | dollar =>
    rw [closed, hmode] at h
    dsimp only
    split_ifs with hdigit
    · -- the first digit is taken whatever its value
      obtain ⟨hcanonical, hnumbered⟩ := h.endLiteral
      have hvalue := Text.digitValue_lt hdigit
      exact open_cons_group hcanonical hnumbered (by omega)
    · rw [pieces_readPlain]
      exact h
  | number n =>
    rw [closed, hmode] at h
    dsimp only
    split_ifs with hnext
    · -- the number grows, and what is in front of it stays
      have hcanonical := (canonical_cons_group n r.pieces).mp h.canonical
      exact open_cons_group hcanonical h.numbered.tail (by omega)
    · rw [pieces_readPlain]
      exact h

lemma open_foldl_read (h : Open groups r.closed.pieces) (t : Text) :
    Open groups (t.foldl (Reader.read groups) r).closed.pieces := by
  induction t generalizing r with
  | nil => exact h
  | cons c t ih => exact ih (open_read h c)

/-- What remains open is the literal at the end. -/
lemma finish_of_open (h : Open groups r.closed.pieces) :
    Canonical r.finish ∧ Numbered groups r.finish := by
  have hends : ∀ q : Reader, Open groups q.pieces →
      Canonical q.endLiteral.pieces.reverse ∧ Numbered groups q.endLiteral.pieces.reverse := by
    intro q hq
    obtain ⟨hcanonical, hnumbered⟩ := hq.endLiteral
    exact ⟨hcanonical.reverse, fun m hm => hnumbered m (List.mem_reverse.mp hm)⟩
  unfold finish
  cases hmode : r.mode <;> rw [closed, hmode] at h <;> exact hends _ h

end Reader

/-- What a template is made of: no literal is empty or stands next to another one, and no number is
too large. -/
theorem canonical_parse (groups : ℕ) (template : Text) :
    Canonical (parse groups template) ∧ Numbered groups (parse groups template) := by
  have hopen : Reader.Open groups ({} : Reader).closed.pieces := Reader.open_nil groups
  exact Reader.finish_of_open (Reader.open_foldl_read hopen template)

/-! ### Reading a rendered template -/

namespace Reader

lemma reverse_endLiteral (r : Reader) :
    r.endLiteral.pieces.reverse = r.pieces.reverse ++ joinLiteral r.literal.reverse [] := by
  cases hliteral : r.literal <;> simp [endLiteral, hliteral, joinLiteral]

lemma foldl_read_literal (h : r.mode = .plain) (groups : ℕ) (t : Text) :
    (Piece.literal t).render.foldl (Reader.read groups) r =
      { r with literal := t.reverse ++ r.literal } := by
  induction t generalizing r with
  | nil => rfl
  | cons c t ih =>
    have hread : ['\\', c].foldl (Reader.read groups) r = r.addChar c := by
      simp [read, h, readPlain, addChar]
    have hsplit : (Piece.literal (c :: t)).render = ['\\', c] ++ (Piece.literal t).render := rfl
    have hplain : (r.addChar c).mode = .plain := rfl
    rw [hsplit, List.foldl_append, hread, ih hplain, addChar, ← h]
    simp

/-- All digits of a number are read: what stands in front of the last one is a smaller number. -/
lemma foldl_read_decimal (h : r.mode = .dollar) (hn : n < max groups 10) :
    (Text.decimal n).foldl (Reader.read groups) r = { r.endLiteral with mode := .number n } := by
  induction n using Nat.strong_induction_on with
  | _ n ih =>
    rw [Text.decimal, Nat.toDigits_eq_if (by decide)]
    split_ifs with hsingle
    · have hdigit : (Nat.digitChar n).isDigit = true := by simp [Nat.isDigit_digitChar, hsingle]
      rw [List.foldl_cons, List.foldl_nil, read, h]
      dsimp only
      rw [if_pos hdigit, Text.digitValue_digitChar hsingle]
    · have hlast : n % 10 < 10 := Nat.mod_lt n (by decide)
      have hdigit : (Nat.digitChar (n % 10)).isDigit = true := by
        simp [Nat.isDigit_digitChar, hlast]
      have hfront := ih (n / 10) (by omega) (by omega)
      have hvalue : n / 10 * 10 + n % 10 = n := Nat.div_add_mod' n 10
      rw [List.foldl_append, ← Text.decimal, hfront, List.foldl_cons, List.foldl_nil, read]
      dsimp only
      rw [Text.digitValue_digitChar hlast, hvalue, if_pos ⟨hdigit, by omega⟩]

lemma foldl_read_group (h : r.mode = .plain) (hn : n < max groups 10) :
    (Piece.group n).render.foldl (Reader.read groups) r =
      { r.endLiteral with mode := .number n } := by
  have hdollar : r.read groups '$' = { r with mode := .dollar } := read_plain h ..
  rw [Piece.render, List.foldl_cons, hdollar, foldl_read_decimal rfl hn]
  unfold endLiteral
  split_ifs <;> rfl

/-- A number ends in front of anything but a digit. -/
lemma finish_foldl_number (h : r.mode = .number n) {t : Text}
    (ht : ∀ c ∈ t.head?, c.isDigit = false) :
    (t.foldl (Reader.read groups) r).finish =
      (t.foldl (Reader.read groups) (r.addGroup n)).finish := by
  cases t with
  | nil => rw [List.foldl_nil, List.foldl_nil, finish, h]; rfl
  | cons c t =>
    have hread : r.read groups c = (r.addGroup n).read groups c := by
      rw [read, h]
      simp [read, addGroup, ht c rfl]
    rw [List.foldl_cons, hread, List.foldl_cons]

end Reader

lemma head_render_not_digit (pieces : List Piece) :
    ∀ c ∈ (render pieces).head?, c.isDigit = false := by
  induction pieces with
  | nil => simp [render]
  | cons piece pieces ih =>
    rcases piece with ⟨_ | ⟨c, t⟩⟩ | n
    · exact ih
    · simp [render, Piece.render]
    · simp [render, Piece.render]

/-- What is read after the complete pieces and the open literal of a reader. -/
lemma finish_foldl_render (h : r.mode = .plain) (hpieces : Numbered groups pieces) :
    ((render pieces).foldl (Reader.read groups) r).finish =
      r.pieces.reverse ++ joinLiteral r.literal.reverse (joined pieces) := by
  induction pieces generalizing r with
  | nil =>
    rw [show render [] = [] from rfl, List.foldl_nil, Reader.finish, h]
    exact Reader.reverse_endLiteral r
  | cons piece pieces ih =>
    have hsplit : render (piece :: pieces) = piece.render ++ render pieces := rfl
    have hrest := hpieces.tail
    rw [hsplit, List.foldl_append]
    cases piece with
    | literal t =>
      have hplain : ({ r with literal := t.reverse ++ r.literal } : Reader).mode = .plain := h
      rw [Reader.foldl_read_literal h, ih hplain hrest, List.reverse_append, List.reverse_reverse,
        joinLiteral_append, joined]
    | group n =>
      have hn : n < max groups 10 := hpieces n List.mem_cons_self
      have hnumber : ({ r.endLiteral with mode := .number n } : Reader).addGroup n =
          { r.endLiteral.addGroup n with literal := [] } := by
        rw [Reader.addGroup, Reader.addGroup, Reader.literal_endLiteral]
      -- what follows does not begin with a digit, so the number ends here
      have hends := head_render_not_digit pieces
      rw [Reader.foldl_read_group h hn, Reader.finish_foldl_number rfl hends, hnumber,
        ih rfl hrest, joined, joinLiteral_cons_group, ← List.append_assoc,
        ← Reader.reverse_endLiteral]
      simp [Reader.addGroup, joinLiteral_nil]

/-- What reads back from a rendered template: neighbouring literals are joined. -/
theorem parse_render (h : Numbered groups pieces) :
    parse groups (render pieces) = joined pieces := by
  have hread := finish_foldl_render (r := {}) rfl h
  rw [List.reverse_nil, List.reverse_nil, List.nil_append, joinLiteral_nil] at hread
  exact hread

/-- Pieces read back from their template as they are just if no literal is empty or stands next to
another one, and no number is too large: a number below the count of groups never is, whatever
digits follow it. And whatever literals there are, the template inserts what the pieces say. -/
theorem parse_render_eq_iff (groups : ℕ) (pieces : List Piece) :
    (parse groups (render pieces) = pieces ↔ Canonical pieces ∧ Numbered groups pieces) ∧
      (Numbered groups pieces → ∀ group : Text → Text,
        Engine.expand group (encode (parse groups (render pieces))) =
          expand (fun n => group (Text.decimal n)) pieces) := by
  refine ⟨⟨fun hback => ?_, fun ⟨hcanonical, hnumbered⟩ => ?_⟩, fun hnumbered group => ?_⟩
  · have hread := canonical_parse groups (render pieces)
    rwa [hback] at hread
  · rw [parse_render hnumbered, joined_of_canonical hcanonical]
  · rw [Engine.expand_encode, parse_render hnumbered, expand_joined]

/-- Group 12 of thirteen in front of the digits 3 and 4, and a literal of the two characters with a
meaning of their own. -/
theorem parse_render_eq_iff_digits :
    let pieces := [.literal "\\$".toList, .group 12, .literal "34".toList, .group 0, .group 1]
    render pieces = "\\\\\\$$12\\3\\4$0$1".toList ∧ Canonical pieces ∧ Numbered 13 pieces ∧
      parse 13 "\\\\\\$$12\\3\\4$0$1".toList = pieces ∧
      ∀ group : Text → Text,
        Engine.expand group (encode (parse 13 "\\\\\\$$12\\3\\4$0$1".toList)) =
          "\\$".toList ++ group "12".toList ++ "34".toList ++ group "0".toList ++
            group "1".toList := by
  intro pieces
  have hrender : render pieces = "\\\\\\$$12\\3\\4$0$1".toList := by decide
  have hcanonical : Canonical pieces := ⟨by decide, by decide⟩
  have hnumbered : Numbered 13 pieces := by simp [pieces, Numbered]
  obtain ⟨hback, hinsert⟩ := parse_render_eq_iff 13 pieces
  rw [hrender] at hback hinsert
  refine ⟨hrender, hcanonical, hnumbered, hback.mpr ⟨hcanonical, hnumbered⟩, fun group => ?_⟩
  have hdecimal : Text.decimal 12 = "12".toList ∧ Text.decimal 0 = "0".toList ∧
      Text.decimal 1 = "1".toList := by decide
  obtain ⟨htwelve, hzero, hone⟩ := hdecimal
  rw [hinsert hnumbered group]
  simp [pieces, expand, htwelve, hzero, hone]

end Template

end PatternAlgebra
