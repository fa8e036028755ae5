import PatternAlgebra.Engine.Program
import PatternAlgebra.Proofs.Element.Signs
import PatternAlgebra.Proofs.Engine.Assembly

/-! Texts between brackets. Where the special characters of a text are escaped, the engine's set has
the characters of the text one by one, but for two signs that are not among them: two ampersands in
a row leave what is on both sides, and two tildes what is on one side only. -/
namespace PatternAlgebra

namespace Engine.Bracket

variable {s : Text} {c : Char} {fuel : ℕ} {f : Frame}

/-- What an operator makes of being found on its left and on its right. -/
def Operator.holds : Operator → Bool → Bool → Bool
  | inter, b, d => b && d
  | diff, b, d => b && !d
  | symmDiff, b, d => b != d

lemma Operator.contains_apply (o : Operator) (s t : CharSet) (c : Char) :
    (o.apply s t).contains c = o.holds (s.contains c) (t.contains c) := by
  cases o <;> rfl

/-- What is between the double ampersands and the double tildes of a text: the first part, and the
others with their operators. -/
def operands : Text → Text × List (Operator × Text)
  | [] => ([], [])
  | '&' :: '&' :: t => ([], (.inter, (operands t).1) :: (operands t).2)
  | '~' :: '~' :: t => ([], (.symmDiff, (operands t).1) :: (operands t).2)
  | c :: t => (c :: (operands t).1, (operands t).2)

lemma operands_cons {t : Text} (hampersand : ∀ u, c = '&' → t = '&' :: u → False)
    (htilde : ∀ u, c = '~' → t = '~' :: u → False) :
    operands (c :: t) = (c :: (operands t).1, (operands t).2) := by
  rw [operands]
  · exact hampersand
  · exact htilde

lemma operands_singleton (c : Char) : operands [c] = ([c], []) := operands_cons (by simp) (by simp)

/-- A text without two ampersands or two tildes in a row has no operators. -/
lemma operands_of_not_infix (hampersands : ¬['&', '&'] <:+: s) (htildes : ¬['~', '~'] <:+: s) :
    operands s = (s, []) := by
  induction s with
  | nil => rfl
  | cons c s ih =>
    have hrest {u : Text} (h : ¬u <:+: c :: s) : ¬u <:+: s := fun hu =>
      h (hu.trans (List.suffix_cons c s).isInfix)
    have hapart {d : Char} (h : ¬[d, d] <:+: c :: s) (t : Text) : c = d → s = d :: t → False := by
      rintro rfl rfl
      exact h ⟨[], t, rfl⟩
    rw [operands_cons (hapart hampersands) (hapart htildes),
      ih (hrest hampersands) (hrest htildes)]

/-- Whether `c` is found in the end, where the operators combine the parts from left to right. -/
def combine (c : Char) : (found : Bool) → List (Operator × Text) → Bool
  | found, [] => found
  | found, (o, part) :: others => combine c (o.holds found (part.contains c)) others

/-- Whether a character is found in a text with operators. -/
def finds (s : Text) (c : Char) : Bool := combine c ((operands s).1.contains c) (operands s).2

def pieceOf (c : Char) : Piece := if isSpecialChar c then .escaped c else .bare c

/-- The pieces of a text whose special characters are escaped. -/
def spelled (s : Text) : List Piece := s.map pieceOf

/-- The pieces behind an opening bracket. -/
def bracketed (negated : Bool) (s : Text) : List Piece :=
  (if negated then [.bare '^'] else []) ++ (spelled s ++ [.bare ']'])

lemma spelled_cons (c : Char) (s : Text) : spelled (c :: s) = pieceOf c :: spelled s := rfl

lemma eq_of_pieceOf {d : Char} (h : pieceOf c = .bare d) : c = d ∧ isSpecialChar d = false := by
  unfold pieceOf at h
  split_ifs at h with hc
  cases h
  exact ⟨rfl, eq_false_of_ne_true hc⟩

lemma pieceOf_ne {d : Char} (hd : isSpecialChar d = true) (c : Char) : pieceOf c ≠ .bare d :=
  fun h => Bool.false_ne_true ((eq_of_pieceOf h).2.symm.trans hd)

lemma item_pieceOf (c : Char) : readItem?.item false (pieceOf c) = .single c := by
  unfold pieceOf
  split_ifs <;> rfl

/-! ### The pieces -/

/-- Behind a backslash a special character is itself, outside of brackets and between them. -/
lemma readEscape?_of_special (hc : isSpecialChar c = true) (t : Text) :
    readEscape? (c :: t) = some (.char c, t) ∧ readBracketEscape? (c :: t) = some (.char c, t) := by
  have hmem : c ∈ "\\|^$()\x7b\x7d*+?[]-.".toList := List.contains_iff_mem.mp hc
  fin_cases hmem <;> exact ⟨rfl, rfl⟩

lemma piecesOfEscape?_of_special (hc : isSpecialChar c = true) :
    piecesOfEscape? (.char c) = some [.escaped c] := by
  have hmeaning : hasMeaning c = true := Sign.eq_true_of_special (p := hasMeaning) (by decide) hc
  rw [piecesOfEscape?, if_pos hmeaning]

lemma piecesToClose?_escapeEach (hfuel : s.length < fuel) (t : Text) :
    piecesToClose? fuel 0 (escapeEach s ++ ']' :: t) = some (spelled s ++ [.bare ']'], t) := by
  induction s generalizing fuel with
  | nil =>
    obtain ⟨fuel, rfl⟩ := Nat.exists_eq_succ_of_ne_zero (Nat.ne_zero_of_lt hfuel)
    rfl
  | cons c s ih =>
    obtain ⟨fuel, rfl⟩ := Nat.exists_eq_succ_of_ne_zero (Nat.ne_zero_of_lt hfuel)
    have hrest := ih (Nat.lt_of_succ_lt_succ hfuel)
    cases hc : isSpecialChar c with
    | true =>
      rw [Sign.escapeEach_cons_of_special hc, List.cons_append, List.cons_append, piecesToClose?,
        (readEscape?_of_special hc _).2]
      simp only [Option.bind_eq_bind, Option.bind_some, piecesOfEscape?_of_special hc, hrest]
      rw [spelled_cons, pieceOf, if_pos hc]
      rfl
    | false =>
      have hne {d : Char} (hd : isSpecialChar d = true) : c ≠ d := Sign.ne_of_not_special hc hd
      have hplain : piecesToClose? (fuel + 1) 0 (c :: (escapeEach s ++ ']' :: t)) =
          (piecesToClose? fuel 0 (escapeEach s ++ ']' :: t)).bind fun read =>
            some (.bare c :: read.1, read.2) := by
        rw [piecesToClose?]
        · rfl
        · exact hne (by decide)
        · exact hne (by decide)
        · exact fun _ => hne (by decide)
        · exact fun _ _ => hne (by decide)
      rw [Sign.escapeEach_cons_of_not_special hc, List.cons_append, hplain, hrest,
        spelled_cons, pieceOf, hc]
      rfl

lemma length_le_length_escapeEach (s : Text) : s.length ≤ (escapeEach s).length := by
  induction s with
  | nil => exact le_rfl
  | cons c s ih =>
    have hone : (escapeEach [c]).length = if isSpecialChar c then 2 else 1 := by
      unfold escapeEach
      split_ifs with hc <;> simp [hc]
    rw [Sign.escapeEach_cons, List.length_append, List.length_cons, hone]
    split_ifs <;> omega

lemma delimit?_escapeEach (hs : s ≠ []) (negated : Bool) (t : Text) :
    delimit? ((if negated then ['^'] else []) ++ (escapeEach s ++ ']' :: t)) =
      some (bracketed negated s, t) := by
  have hfuel : s.length < (escapeEach s ++ ']' :: t).length + 1 := by
    have hle := length_le_length_escapeEach s
    rw [List.length_append]
    omega
  have hclose := piecesToClose?_escapeEach hfuel t
  obtain ⟨c, u, hcons, hc⟩ := Sign.exists_cons_escapeEach hs
  have hcaret : c ≠ '^' := Sign.ne_of_begins hc (by decide) (by decide)
  have hclosing : c ≠ ']' := Sign.ne_of_begins hc (by decide) (by decide)
  rw [hcons, List.cons_append] at hclose ⊢
  cases negated <;> simpa [delimit?, hcaret, hclosing, bracketed] using hclose

/-! ### The frame -/

namespace Frame

/-- What becomes of a frame behind the characters of a text. -/
def reads : Frame → Text → Frame
  | f, [] => f
  | f, '&' :: '&' :: t => (f.operate false .inter).reads t
  | f, '~' :: '~' :: t => (f.operate false .symmDiff).reads t
  | f, c :: t => (f.add (.single c) 0).reads t

/-- What is found with the operator of a frame, where `found` says what is found behind it. -/
def complete (f : Frame) (c : Char) (found : Bool) : Bool :=
  f.left.elim found fun left => left.operator.holds (left.set.contains c) found

lemma contains_value (f : Frame) (c : Char) :
    (f.value false).contains c = f.complete c (f.items.contains c) := by
  unfold value complete
  cases f.left with
  | none => rfl
  | some left => exact left.operator.contains_apply _ _ c

lemma complete_operate (f : Frame) (o : Operator) (c : Char) (found : Bool) :
    (f.operate false o).complete c found = o.holds (f.complete c (f.items.contains c)) found := by
  rw [← contains_value]
  rfl

lemma contains_value_reads (f : Frame) (s : Text) (c : Char) :
    ((f.reads s).value false).contains c =
      combine c (f.complete c (f.items.contains c || (operands s).1.contains c))
        (operands s).2 := by
  fun_induction reads f s with
  | case1 f => rw [contains_value, operands, List.contains_nil, Bool.or_false, combine]
  | case2 f t ih =>
    rw [ih, complete_operate, operands, List.contains_nil, Bool.or_false, combine]
    rfl
  | case3 f t ih =>
    rw [ih, complete_operate, operands, List.contains_nil, Bool.or_false, combine]
    rfl
  | case4 f d t hampersand htilde ih =>
    rw [ih, operands_cons hampersand htilde, List.contains_cons, ← Bool.or_assoc]
    rfl

/-- A frame of single characters, which nests no deeper than its operators. -/
structure Flat (f : Frame) (operators : ℕ) : Prop where
  nesting_eq : f.nesting = 0
  left_le : ∀ left ∈ f.left, left.nesting ≤ operators ∧ 0 < operators

lemma Flat.add {n : ℕ} (h : f.Flat n) (c : Char) : (f.add (.single c) 0).Flat n where
  nesting_eq := by simp [Frame.add, h.nesting_eq]
  left_le := h.left_le

lemma Flat.depth_le {n : ℕ} (h : f.Flat n) {own : ℕ} (hown : own ≤ 1) : f.depth own ≤ n + 1 := by
  unfold depth
  cases hleft : f.left with
  | none => exact hown.trans (Nat.le_add_left 1 n)
  | some left =>
    obtain ⟨hle, hpos⟩ := h.left_le left hleft
    exact Nat.succ_le_succ (max_le hle (hown.trans hpos))

lemma Flat.operate {n : ℕ} (h : f.Flat n) (o : Operator) : (f.operate false o).Flat (n + 1) where
  nesting_eq := rfl
  left_le := by
    rintro left ⟨⟩
    refine ⟨h.depth_le ?_, Nat.succ_pos n⟩
    rw [h.nesting_eq]

lemma Flat.reads {n : ℕ} (h : f.Flat n) (s : Text) :
    (f.reads s).Flat (n + (operands s).2.length) := by
  fun_induction Frame.reads f s generalizing n with
  | case1 => exact h
  | case2 f t ih =>
    have hrest := ih (h.operate .inter)
    rwa [Nat.add_right_comm] at hrest
  | case3 f t ih =>
    have hrest := ih (h.operate .symmDiff)
    rwa [Nat.add_right_comm] at hrest
  | case4 f c t hampersand htilde ih =>
    rw [operands_cons hampersand htilde]
    exact ih (h.add c)

lemma Flat.depth_close_le {n : ℕ} (h : f.Flat n) : (f.close false).2 ≤ n + 2 := by
  refine Nat.succ_le_succ (h.depth_le ?_)
  rw [h.nesting_eq]
  split_ifs <;> omega

/-- How many bytes the set of a frame takes so far. -/
def bytes (backward : Bool) (f : Frame) : ℕ :=
  f.left.elim 0 (·.set.bytes backward) + f.items.bytes backward

variable {backward : Bool}

lemma bytes_value (f : Frame) : (f.value false).bytes backward = f.bytes backward := by
  unfold value bytes
  cases f.left with
  | none => exact (Nat.zero_add _).symm
  | some left =>
    cases hoperator : left.operator <;>
      simp [Operator.apply, CharSet.bytes, CharSet.underCase, hoperator]

lemma bytes_add (f : Frame) (c : Char) :
    (f.add (.single c) 0).bytes backward = f.bytes backward + 32 * c.utf8Size := by
  simp only [bytes, add, CharSet.bytes]
  omega

lemma bytes_operate (f : Frame) (o : Operator) :
    (f.operate false o).bytes backward = f.bytes backward + 32 := by
  rw [← bytes_value f]
  rfl

lemma bytes_reads_le (f : Frame) (s : Text) :
    (f.reads s).bytes backward ≤ f.bytes backward + 32 * s.byteLength := by
  have hoperator (c : Char) (hc : c.utf8Size = 1) (t : Text) :
      Text.byteLength (c :: c :: t) = t.byteLength + 2 := by
    rw [Text.byteLength, Text.byteLength, hc]
    omega
  fun_induction reads f s with
  | case1 => exact Nat.le_add_right _ _
  | case2 f t ih =>
    rw [bytes_operate] at ih
    rw [hoperator '&' rfl]
    omega
  | case3 f t ih =>
    rw [bytes_operate] at ih
    rw [hoperator '~' rfl]
    omega
  | case4 f c t _ _ ih =>
    rw [bytes_add] at ih
    rw [Text.byteLength]
    omega

lemma negated_reads (f : Frame) (s : Text) : (f.reads s).negated = f.negated := by
  fun_induction reads f s with
  | case1 => rfl
  | case2 f t ih => exact ih
  | case3 f t ih => exact ih
  | case4 f c t _ _ ih => exact ih

end Frame

lemma exists_of_spelled {d : Char} (hd : d ≠ ']') {ps : List Piece}
    (h : spelled s ++ [.bare ']'] = .bare d :: ps) : isSpecialChar d = false ∧ ∃ t, s = d :: t := by
  cases s with
  | nil =>
    cases h
    exact absurd rfl hd
  | cons c s =>
    obtain ⟨rfl, hspecial⟩ := eq_of_pieceOf (List.cons.inj h).1
    exact ⟨hspecial, s, rfl⟩

/-- A hyphen is escaped, so there are no ranges. -/
lemma readItem?_spelled (piece : Piece) (s : Text) :
    readItem? false piece (spelled s ++ [.bare ']']) =
      some (readItem?.item false piece, spelled s ++ [.bare ']']) := by
  rw [readItem?]
  intro after hafter
  cases (exists_of_spelled (by decide) hafter).1

/-- The engine reads the pieces of a text as its frame does. -/
lemma readItems?_spelled (hfuel : s.length < fuel) (f : Frame) :
    readItems? false fuel f [] (spelled s ++ [.bare ']']) =
      some (((f.reads s).close false).1, ((f.reads s).close false).2, []) := by
  fun_induction Frame.reads f s generalizing fuel with
  | case1 =>
    obtain ⟨fuel, rfl⟩ := Nat.exists_eq_succ_of_ne_zero (Nat.ne_zero_of_lt hfuel)
    rfl
  | case2 f t ih =>
    obtain ⟨fuel, rfl⟩ := Nat.exists_eq_succ_of_ne_zero (Nat.ne_zero_of_lt hfuel)
    exact ih (by simp at hfuel; omega)
  | case3 f t ih =>
    obtain ⟨fuel, rfl⟩ := Nat.exists_eq_succ_of_ne_zero (Nat.ne_zero_of_lt hfuel)
    exact ih (by simp at hfuel; omega)
  | case4 f c t hampersand htilde ih =>
    obtain ⟨fuel, rfl⟩ := Nat.exists_eq_succ_of_ne_zero (Nat.ne_zero_of_lt hfuel)
    have hrest := ih (Nat.lt_of_succ_lt_succ hfuel)
    -- two of a sign that makes an operator would have been read as that
    have hapart {d : Char} (hd : d ≠ ']') (h : ∀ u, c = d → t = d :: u → False) (ps : List Piece)
        (hfirst : pieceOf c = .bare d) : spelled t ++ [.bare ']'] ≠ .bare d :: ps := by
      intro hsecond
      obtain ⟨-, u, hu⟩ := exists_of_spelled hd hsecond
      exact h u (eq_of_pieceOf hfirst).1 hu
    rw [spelled_cons, List.cons_append, readItems?]
    · rw [readItem?_spelled, item_pieceOf]
      exact hrest
    · exact pieceOf_ne (by decide) c
    · exact pieceOf_ne (by decide) c
    · exact hapart (by decide) hampersand
    · exact fun _ hhyphen => absurd hhyphen (pieceOf_ne (by decide) c)
    · exact hapart (by decide) htilde

/-- A text between brackets begins with no sign that has a meaning there. -/
lemma openFrame_bracketed (hs : s ≠ []) (negated : Bool) :
    openFrame (bracketed negated s) = ({ negated }, spelled s ++ [.bare ']']) := by
  obtain ⟨c, s, rfl⟩ := List.exists_cons_of_ne_nil hs
  rw [bracketed, spelled_cons, List.cons_append]
  have hne {d : Char} (hd : isSpecialChar d = true) : pieceOf c ≠ .bare d := pieceOf_ne hd c
  generalize pieceOf c = piece at hne
  have hcaret := @hne '^' (by decide)
  have hhyphen := @hne '-' (by decide)
  have hclosing := @hne ']' (by decide)
  cases negated <;> simp [openFrame, hcaret, hhyphen, hclosing]

/-- What has been read at the end of the brackets. -/
def frameOf (negated : Bool) (s : Text) : Frame := ({ negated } : Frame).reads s

lemma toExpr?_bracketed (hs : s ≠ []) (negated : Bool) :
    toExpr? false (bracketed negated s) =
      some (.set ((frameOf negated s).close false).1 ((frameOf negated s).close false).2) := by
  have hfuel : s.length < (spelled s ++ [Piece.bare ']']).length + 1 := by
    simp [spelled]
  have hread : readSet? false (bracketed negated s) =
      some (((frameOf negated s).close false).1, ((frameOf negated s).close false).2, []) := by
    rw [readSet?, openFrame_bracketed hs]
    exact readItems?_spelled hfuel _
  rw [toExpr?, hread]
  rfl

/-- What a bracket expression comes to: a set that is not too large unless the text is, and whose
notation nests no deeper than the operators in the text. -/
lemma close_frameOf (negated : Bool) (s : Text) :
    (∀ c, ((frameOf negated s).close false).1.contains c = (negated != finds s c)) ∧
      ((frameOf negated s).close false).2 ≤ (operands s).2.length + 2 ∧
      ∀ backward, ((frameOf negated s).close false).1.bytes backward ≤ 32 * s.byteLength + 1000 := by
  have hset : ((frameOf negated s).close false).1 =
      if negated then .complement ((frameOf negated s).value false) else
        (frameOf negated s).value false := by
    rw [Frame.close, frameOf, Frame.negated_reads]
  have hbytes (backward : Bool) :
      ((frameOf negated s).value false).bytes backward ≤ 32 * s.byteLength + 32 := by
    have hle : (frameOf negated s).bytes backward ≤ 32 + 32 * s.byteLength :=
      Frame.bytes_reads_le { negated } s
    rw [Frame.bytes_value]
    omega
  refine ⟨fun c => ?_, ?_, fun backward => ?_⟩
  · have hvalue : ((frameOf negated s).value false).contains c = finds s c :=
      Frame.contains_value_reads { negated } s c
    rw [hset]
    cases negated <;> simp [CharSet.contains, hvalue]
  · have hstart : ({ negated } : Frame).Flat 0 := ⟨rfl, fun _ h => absurd h (Option.not_mem_none _)⟩
    have hdepth := (hstart.reads s).depth_close_le
    rwa [Nat.zero_add] at hdepth
  · have hle := hbytes backward
    rw [hset]
    split_ifs
    · rw [CharSet.bytes]
      split_ifs <;> omega
    · omega

end Engine.Bracket

namespace Engine

variable {grammar : Text} {lexeme : Lexeme} {set : CharSet} {depth : ℕ}

/-- The program of a grammar that is a single set. -/
def Program.ofSet (set : CharSet) : Program where
  body := .regular (.set set)
  groups := 0
  lastGroup := 0
  names := []

/-- A grammar of one lexeme, which is a set. -/
lemma Program.ofGrammar?_of_lexeme (hblank : Lexeme.beginsWithBlank false grammar = false)
    (hnext : Lexeme.next? false false grammar = some (lexeme, []))
    (hstep : ∀ bound,
      ({} : Assembly).step? bound [] lexeme = some (({} : Assembly).awaitExpr (.set set depth))) :
    Program.ofGrammar? grammar =
      if depth ≤ Regular.nestingLimit ∧ (Regular.set set).size ≤ Regular.sizeLimit then some (.ofSet set)
      else none := by
  have hread (bound : ℕ) : Assembly.read? bound (grammar.length + 1) {} grammar =
      some (({} : Assembly).awaitExpr (.set set depth)) := by
    have hpos : grammar.length ≠ 0 := by
      rintro hzero
      rw [List.length_eq_zero_iff.mp hzero] at hnext
      cases hnext
    obtain ⟨n, hn⟩ := Nat.exists_eq_succ_of_ne_zero hpos
    rw [Assembly.read?_lexeme hblank hnext (hstep bound), hn, Assembly.read?_nil]
  have hregular : Regular.ofWhole? (.set set depth) =
      if depth ≤ Regular.nestingLimit ∧ (Regular.set set).size ≤ Regular.sizeLimit then some (.set set)
      else none := rfl
  have hfinish : (({} : Assembly).awaitExpr (.set set depth)).finish? = some (.set set depth) := rfl
  rw [Program.ofGrammar?, hread]
  simp only [Option.bind_eq_bind, Option.bind_some, hfinish, ofExpr?, Expr.isEasy, if_true,
    hregular]
  split_ifs <;> rfl

end Engine

end PatternAlgebra
