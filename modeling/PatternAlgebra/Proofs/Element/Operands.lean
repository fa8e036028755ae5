import PatternAlgebra.Proofs.Element.Captures
import PatternAlgebra.Proofs.Element.Tokens

/-! The operands of quantifiers. An element of weight at most one writes at most one atom, with
directives around it, and a heavier one is put into a group. So a quantifier has an operand of its own,
and all of it, unless the element writes no atom at the end of its grammar, or begins with a digit that
a reference in front of it takes. -/
namespace PatternAlgebra

open Token

namespace Token

variable {g h : Text} {k : Token} {ks ls : List Token} {v w : ℕ} {b c : Bool}

/-- What a quantifier behind it repeats: a sign, a reference or a group. -/
inductive IsAtom : List Token → Prop
  | sign (t : Text) : IsAtom [⟨.sign, t⟩]
  | reference (t : Text) : IsAtom [⟨.reference, t⟩]
  | group (mark bracket : Text) {inner : List Token} (h : depthAfter? 0 inner = some 0) :
      IsAtom (⟨.opening, mark⟩ :: (inner ++ [⟨.closing, bracket⟩]))

def AllDirectives (ks : List Token) : Prop := ∀ k ∈ ks, k.kind = .directive

/-- Whether there is a last token, which is no directive. -/
def EndsInItem (ks : List Token) : Prop := ∃ k ∈ ks.getLast?, k.kind ≠ .directive

/-- At most one atom among directives. -/
def Single (ks : List Token) : Prop :=
  ∃ before atom after, ks = before ++ atom ++ after ∧ AllDirectives before ∧ AllDirectives after ∧
    (atom = [] ∨ IsAtom (gather atom))

lemma allDirectives_nil : AllDirectives [] := by simp [AllDirectives]

lemma AllDirectives.append (hks : AllDirectives ks) (hls : AllDirectives ls) :
    AllDirectives (ks ++ ls) := List.forall_mem_append.mpr ⟨hks, hls⟩

lemma not_endsInItem_nil : ¬EndsInItem [] := by simp [EndsInItem]

lemma endsInItem_append_of_ne_nil (hne : ls ≠ []) : EndsInItem (ks ++ ls) ↔ EndsInItem ls := by
  rw [EndsInItem, EndsInItem, List.getLast?_append_of_ne_nil ks hne]

lemma endsInItem_concat (ks : List Token) (k : Token) :
    EndsInItem (ks ++ [k]) ↔ k.kind ≠ .directive := by
  simp [EndsInItem]

lemma AllDirectives.not_endsInItem (h : AllDirectives ks) : ¬EndsInItem ks := by
  rintro ⟨k, hk, hkind⟩
  exact hkind (h k (List.mem_of_getLast? hk))

lemma IsAtom.ne_nil (h : IsAtom ks) : ks ≠ [] := by
  cases h <;> simp

lemma IsAtom.endsInItem (h : IsAtom ks) : EndsInItem ks := by
  cases h with
  | sign t => simp [EndsInItem]
  | reference t => simp [EndsInItem]
  | group mark bracket h =>
    rw [← List.cons_append, endsInItem_concat]
    simp

lemma gather_of_allDirectives (h : AllDirectives ks) : gather ks = ks :=
  gather_eq_self fun k hk => isDigit_of_kind_ne (by simp [h k hk])

lemma endsInItem_of_gather (h : EndsInItem (gather ks)) : EndsInItem ks := by
  rcases List.eq_nil_or_concat ks with rfl | ⟨ks, k, rfl⟩
  · exact h
  · rw [List.concat_eq_append] at *
    rw [endsInItem_concat]
    intro hk
    rw [gather_concat (isDigit_of_kind_ne (by simp [hk])), endsInItem_concat] at h
    exact h hk

/-- A group stays one. -/
lemma isAtom_gather_group (mark bracket : Text) (h : depthAfter? 0 ks = some 0) :
    IsAtom (gather (⟨.opening, mark⟩ :: (ks ++ [⟨.closing, bracket⟩]))) := by
  rw [gather_cons (by simp), gather_concat (isDigit_of_kind_ne (by simp))]
  exact .group mark bracket ((depthAfter?_gather 0 ks).trans h)

/-! ### What an element writes -/

/-- The tokens of one element or of several in a row, with what their weight says of them and whether
they end in what a quantifier could repeat. -/
structure Cut (weight : ℕ) (ends : Bool) (g : Text) (ks : List Token) : Prop where
  splits : Splits g ks
  ends_iff : ends = true ↔ EndsInItem ks
  allDirectives : weight = 0 → AllDirectives ks
  single : weight ≤ 1 → Single ks

lemma cut_nil : Cut 0 false [] [] where
  splits := splits_nil
  ends_iff := by simp [not_endsInItem_nil]
  allDirectives _ := allDirectives_nil
  single _ := ⟨[], [], [], rfl, allDirectives_nil, allDirectives_nil, .inl rfl⟩

lemma cut_directives (hg : Splits g ks) (hks : AllDirectives ks) : Cut 0 false g ks where
  splits := hg
  ends_iff := by simp [hks.not_endsInItem]
  allDirectives _ := hks
  single _ := ⟨ks, [], [], by simp, hks, allDirectives_nil, .inl rfl⟩

lemma cut_atom (hg : Splits g ks) (hatom : IsAtom (gather ks)) (hw : 0 < w) : Cut w true g ks where
  splits := hg
  ends_iff := by simp [endsInItem_of_gather hatom.endsInItem]
  allDirectives h := absurd h hw.ne'
  single _ := ⟨[], ks, [], by simp, allDirectives_nil, allDirectives_nil, .inr hatom⟩

lemma cut_heavy (hg : Splits g ks) (hends : EndsInItem ks) (hw : 1 < w) : Cut w true g ks where
  splits := hg
  ends_iff := by simp [hends]
  allDirectives h := by omega
  single h := absurd hw h.not_gt

/-- A text with a quantifier behind it. -/
lemma cut_quantified (hg : Splits g ks) (times : Repeat) :
    Cut 2 true (g ++ times.grammar) (ks ++ ofRepeat times) := by
  have hne : ofRepeat times ≠ [] := List.cons_ne_nil _ _
  refine cut_heavy (hg.append (splits_ofRepeat times)) ?_ Nat.one_lt_two
  refine (endsInItem_append_of_ne_nil hne).mpr ⟨_, List.getLast?_eq_some_getLast hne, ?_⟩
  rw [kind_of_mem_ofRepeat (List.getLast_mem hne)]
  decide

lemma cut_sign (hg : Splits g [⟨.sign, g⟩]) : Cut 1 true g [⟨.sign, g⟩] :=
  cut_atom hg (.sign g) Nat.one_pos

namespace Cut

lemma append (hg : Cut v b g ks) (hh : Cut w c h ls) :
    Cut (v + w) (c || (b && h.isEmpty)) (g ++ h) (ks ++ ls) where
  splits := hg.splits.append hh.splits
  -- what writes nothing leaves the end to what is in front of it
  ends_iff := by
    by_cases hnil : ls = []
    · have hempty : h = [] := hh.splits.eq_nil_iff.mp hnil
      have hc : c = false := by
        have hnot := hh.ends_iff.not.mpr (hnil ▸ not_endsInItem_nil)
        exact eq_false_of_ne_true hnot
      rw [hnil, hempty, hc, List.append_nil, List.isEmpty_nil, Bool.and_true, Bool.false_or,
        hg.ends_iff]
    · have hne : h.isEmpty = false := by
        have hne := hh.splits.eq_nil_iff.not.mp hnil
        simpa using hne
      rw [hne, Bool.and_false, Bool.or_false, hh.ends_iff, endsInItem_append_of_ne_nil hnil]
  allDirectives hzero := (hg.allDirectives (by omega)).append (hh.allDirectives (by omega))
  single hone := by
    -- one of the two weighs nothing
    by_cases hv : v = 0
    · obtain ⟨before, atom, after, rfl, hbefore, hafter, hatom⟩ := hh.single (by omega)
      refine ⟨ks ++ before, atom, after, by simp, (hg.allDirectives hv).append hbefore, hafter, hatom⟩
    · obtain ⟨before, atom, after, rfl, hbefore, hafter, hatom⟩ := hg.single (by omega)
      refine ⟨before, atom, after ++ ls, by simp, hbefore, hafter.append ?_, hatom⟩
      exact hh.allDirectives (by omega)

/-- An element of which more than one piece is written is put into a group. -/
lemma unit (hg : Cut w b g ks) : ∃ ls, Cut 1 (decide (1 < w) || b) (Element.unit w g) ls := by
  unfold Element.unit
  by_cases hw : 1 < w
  · rw [if_pos hw, decide_eq_true hw, Bool.true_or]
    exact ⟨_, cut_atom (hg.splits.wrap (by decide) fun _ => rfl)
      (isAtom_gather_group _ _ (hg.splits.closes 0)) Nat.one_pos⟩
  · rw [if_neg hw, decide_eq_false hw, Bool.false_or]
    exact ⟨ks, hg.splits, hg.ends_iff, fun h => absurd h Nat.one_ne_zero, fun _ => hg.single (by omega)⟩

end Cut

end Token

namespace GroupKind

lemma splits_wrap {g : Text} {ks : List Token} (hg : Splits g ks) (kind : GroupKind)
    (h : kind = .capture → Element.Unqueried g) :
    Splits (Element.wrap kind.mark g) (⟨.opening, kind.mark⟩ :: (ks ++ [⟨.closing, [')']⟩])) := by
  refine hg.wrap (by cases kind <;> simp [mark]) fun rest => ?_
  cases kind with
  | capture =>
    have hunqueried : (g ++ ')' :: rest).head? ≠ some '?' :=
      Element.unqueried_append (h rfl) (Element.unqueried_cons rest (by decide))
    have hread : readOther? ('(' :: (g ++ ')' :: rest)) = some (.opening, g ++ ')' :: rest) := by
      rw [readOther?, read?_capture hunqueried]
    exact hread
  | _ => rfl

lemma grammar_element (kind : GroupKind) (e : Element) :
    (kind.element e).grammar = Element.wrap kind.mark e.grammar := by
  cases kind <;> rfl

lemma weight_element (kind : GroupKind) (e : Element) : (kind.element e).weight = 1 := by
  cases kind <;> rfl

end GroupKind

namespace Element

/-- The elements whose names end where they should, whose sets have members and whose captures do not
begin with a question mark. -/
inductive Legible : Element → Prop
  | leaf {e : Element} (h : e.isLeaf = true) : Legible e
  | text (t : Text) : Legible (.text t)
  | charIn {cs : Text} (h : cs ≠ []) : Legible (.charIn cs)
  | charNotIn {cs : Text} (h : cs ≠ []) : Legible (.charNotIn cs)
  | special {s : SpecialChar} (h : s.WellNamed) : Legible (.special s)
  | backReference (id : ℕ) : Legible (.backReference id)
  | setOptions (o : MatchOptions) : Legible (.setOptions o)
  | resetOptions (o : MatchOptions) : Legible (.resetOptions o)
  | repeated {body : Element} (h : Legible body) (times : Repeat) : Legible (.repeated body times)
  | either {es : List Element} (h : ∀ e ∈ es, Legible e) : Legible (.either es)
  | sequence {es : List Element} (h : ∀ e ∈ es, Legible e) : Legible (.sequence es)
  | group {body : Element} (h : Legible body) (kind : GroupKind)
      (hcapture : kind = .capture → Unqueried body.grammar) : Legible (kind.element body)

mutual

/-- Whether an element writes something, and last of all no directive. -/
def endsInItem : Element → Bool
  | setOptions _ | resetOptions _ => false
  | text t => !t.isEmpty
  | either [] => false
  | either [e] => decide (1 < e.weight) || endsInItem e
  | sequence es => rowEndsInItem es
  | _ => true

/-- The same of elements in a row, of which the last may write nothing. -/
def rowEndsInItem : List Element → Bool
  | [] => false
  | e :: es => rowEndsInItem es || (endsInItem e && (grammars es).isEmpty)

end

variable {e : Element} {es : List Element}

/-- An element is cut, and its weight and its shape say what its tokens are to a quantifier. -/
def IsCut (e : Element) : Prop := ∃ ks, Cut e.weight e.endsInItem e.grammar ks

lemma IsCut.of_grammar {g : Text} {ks : List Token} (hgrammar : e.grammar = g)
    (h : Cut e.weight e.endsInItem g ks) : IsCut e := ⟨ks, hgrammar ▸ h⟩

lemma isCut_leaf (h : e.isLeaf = true) : IsCut e := by
  have hsign {c : Char} {t : Text} (hread : ∀ rest, Token.read? (c :: t ++ rest) = some (.sign, rest)) :
      Splits (c :: t) [⟨.sign, c :: t⟩] := splits_sign (List.cons_ne_nil c t) hread
  cases e with
  | any | space | notSpace | digit | notDigit | word | notWord | quote | apostrophe | start | stop
  | firstInInput | lastInInput | boundary | notBoundary | endOfPreviousMatch =>
    exact ⟨_, cut_sign (hsign fun _ => rfl)⟩
  | newLine =>
    have hcarriage : Splits "[\\r]".toList [⟨.sign, "[\\r]".toList⟩] := hsign fun _ => rfl
    have hfeed : Splits "[\\n]".toList [⟨.sign, "[\\n]".toList⟩] := hsign fun _ => rfl
    have hbody := hcarriage.append ((splits_ofRepeat (.optional (some .possessive))).append hfeed)
    exact ⟨_, cut_atom (GroupKind.grouping.splits_wrap hbody (by simp))
      (isAtom_gather_group _ _ (hbody.closes 0)) Nat.one_pos⟩
  | skip =>
    have hany : Splits ['.'] [⟨.sign, ['.']⟩] := hsign fun _ => rfl
    exact ⟨_, cut_quantified hany (.zeroOrMore none)⟩
  | spaces =>
    have hspace : Splits "\\s".toList [⟨.sign, "\\s".toList⟩] := hsign fun _ => rfl
    exact ⟨_, cut_quantified hspace (.zeroOrMore none)⟩
  | words =>
    have hword : Splits "\\w".toList [⟨.sign, "\\w".toList⟩] := hsign fun _ => rfl
    exact ⟨_, cut_quantified hword (.oneOrMore none)⟩
  | _ => contradiction

lemma cut_escapeEach (t : Text) :
    Cut t.length (!t.isEmpty) (escapeEach t) (t.map fun c => ⟨.sign, escapeEach [c]⟩) := by
  induction t with
  | nil => exact cut_nil
  | cons c t ih =>
    have hends : (!t.isEmpty || (true && (escapeEach t).isEmpty)) = true := by
      cases t <;> simp [escapeEach]
    have happend := (cut_sign (splits_escapeEach_singleton c)).append ih
    rw [hends, Nat.add_comm] at happend
    rw [Sign.escapeEach_cons]
    exact happend

lemma isCut_text (t : Text) : IsCut (.text t) := .of_grammar (grammar_text t) (cut_escapeEach t)

lemma isCut_charIn {cs : Text} (h : cs ≠ []) : IsCut (.charIn cs) := by
  by_cases hone : cs.length = 1
  · obtain ⟨c, rfl⟩ := List.length_eq_one_iff.mp hone
    exact .of_grammar (charInGrammar_eq [c]) (cut_sign (splits_escapeEach_singleton c))
  · have hgrammar : (charIn cs).grammar = '[' :: ([] ++ (escapeEach cs ++ [']'])) :=
      (charInGrammar_eq cs).trans (if_neg hone)
    exact .of_grammar hgrammar (cut_sign (splits_set fun t => Sign.set?_charIn h t))

lemma isCut_charNotIn {cs : Text} (h : cs ≠ []) : IsCut (.charNotIn cs) := by
  have hgrammar : (charNotIn cs).grammar = '[' :: (['^'] ++ (escapeEach cs ++ [']'])) := by
    rw [← escapePattern_eq_escapeEach]
    rfl
  exact .of_grammar hgrammar (cut_sign (splits_set fun t => Sign.set?_charNotIn h t))

/-- The digits of a reference are tokens of their own that it takes. -/
lemma exists_splits_backReference (id : ℕ) :
    ∃ d ds, Text.decimal (id + 1) = d :: ds ∧ (∀ c ∈ ds, c.isDigit = true) ∧
      Splits (backReference id).grammar
        (⟨.reference, ['\\', d]⟩ :: ds.map fun c => ⟨.sign, [c]⟩) := by
  have hdigits : ∀ d ∈ Text.decimal (id + 1), d.isDigit = true := fun _ =>
    Text.isDigit_of_mem_decimal
  obtain ⟨d, ds, hcons⟩ := List.exists_cons_of_ne_nil (Text.decimal_ne_nil (id + 1))
  have hgrammar : (backReference id).grammar = ['\\', d] ++ ds := congrArg ('\\' :: ·) hcons
  rw [hcons] at hdigits
  obtain ⟨hd, hds⟩ := List.forall_mem_cons.mp hdigits
  have hfirst : Splits ['\\', d] [⟨.reference, ['\\', d]⟩] := by
    refine splits_token (List.cons_ne_nil _ _) (fun rest => ?_) (by decide) (by decide)
    have hescape : readEscape? (d :: rest) = some (.reference, rest) := by
      rw [readEscape?, if_pos hd]
    exact hescape
  exact ⟨d, ds, hcons, hds, hgrammar ▸ hfirst.append (splits_digits hds)⟩

lemma isCut_backReference (id : ℕ) : IsCut (.backReference id) := by
  obtain ⟨d, ds, -, hds, hsplits⟩ := exists_splits_backReference id
  refine ⟨_, cut_atom hsplits ?_ Nat.one_pos⟩
  rw [gather_reference hds]
  exact .reference _

/-- What is cut into directives. -/
def Directing (g : Text) : Prop := ∃ ks, Splits g ks ∧ AllDirectives ks

lemma Directing.append {g h : Text} (hg : Directing g) (hh : Directing h) : Directing (g ++ h) := by
  obtain ⟨ks, hks, hall⟩ := hg
  obtain ⟨ls, hls, hall'⟩ := hh
  exact ⟨ks ++ ls, hks.append hls, hall.append hall'⟩

lemma directing_options (o : MatchOptions) : Directing o.setting ∧ Directing o.resetting := by
  have hdirective (on : Bool) {g : Text} (hg : g ≠ [])
      (hread : ∀ rest, Token.read? (g ++ rest) = some (.directive, rest)) :
      Directing (if on then g else []) := by
    split_ifs
    · exact ⟨_, splits_token hg hread (by decide) (by decide), by simp [AllDirectives]⟩
    · exact ⟨[], splits_nil, allDirectives_nil⟩
  constructor
  all_goals
    exact (((hdirective o.matchCase (by decide) fun _ => rfl).append
      (hdirective o.anchorsMatchLines (by decide) fun _ => rfl)).append
      (hdirective o.anyIncludesLineChars (by decide) fun _ => rfl)).append
      (hdirective o.unicodeWordBoundaries (by decide) fun _ => rfl)

lemma isCut_options (o : MatchOptions) : IsCut (.setOptions o) ∧ IsCut (.resetOptions o) := by
  obtain ⟨⟨ks, hks, hall⟩, ls, hls, hall'⟩ := directing_options o
  exact ⟨⟨ks, cut_directives hks hall⟩, ls, cut_directives hls hall'⟩

lemma IsCut.repeated (h : IsCut e) (times : Repeat) : IsCut (.repeated e times) := by
  obtain ⟨ks, hks⟩ := h
  obtain ⟨ls, hls⟩ := hks.unit
  exact ⟨_, cut_quantified hls.splits times⟩

lemma IsCut.group (h : IsCut e) (kind : GroupKind) (hcapture : kind = .capture → Unqueried e.grammar) :
    IsCut (kind.element e) := by
  obtain ⟨ks, hks⟩ := h
  have hends : (kind.element e).endsInItem = true := by cases kind <;> rfl
  have hcut := cut_atom (kind.splits_wrap hks.splits hcapture)
    (isAtom_gather_group _ _ (hks.splits.closes 0)) Nat.one_pos
  rw [← hends, ← kind.weight_element e] at hcut
  exact .of_grammar (kind.grammar_element e) hcut

lemma exists_cut_row (h : ∀ e ∈ es, IsCut e) :
    ∃ ks, Cut (weights es) (rowEndsInItem es) (grammars es) ks := by
  induction es with
  | nil => exact ⟨[], cut_nil⟩
  | cons e es ih =>
    obtain ⟨he, hes⟩ := List.forall_mem_cons.mp h
    obtain ⟨ks, hks⟩ := he
    obtain ⟨ls, hls⟩ := ih hes
    exact ⟨ks ++ ls, hks.append hls⟩

lemma exists_splits_joinAlternatives (h : ∀ e ∈ es, IsCut e) :
    ∃ ks, Splits (joinAlternatives (units es)) ks := by
  induction es with
  | nil => exact ⟨[], splits_nil⟩
  | cons e es ih =>
    obtain ⟨he, hes⟩ := List.forall_mem_cons.mp h
    obtain ⟨ks, hks⟩ := he
    obtain ⟨us, hus⟩ := hks.unit
    obtain ⟨ls, hls⟩ := ih hes
    cases es with
    | nil => exact ⟨us, hus.splits⟩
    | cons f es =>
      have hbar : Splits ['|'] [⟨.bar, ['|']⟩] :=
        splits_token (List.cons_ne_nil _ _) (fun _ => rfl) (by decide) (by decide)
      exact ⟨_, hus.splits.append (hbar.append hls)⟩

lemma isCut_either (h : ∀ e ∈ es, IsCut e) : IsCut (.either es) := by
  match es with
  | [] =>
    exact ⟨[], splits_nil, cut_nil.ends_iff, fun _ => allDirectives_nil,
      fun _ => cut_nil.single (Nat.zero_le 1)⟩
  | [e] =>
    obtain ⟨ks, hks⟩ := h e List.mem_cons_self
    exact hks.unit
  | e :: f :: es =>
    obtain ⟨ks, hks⟩ := exists_splits_joinAlternatives h
    exact ⟨_, cut_atom (GroupKind.grouping.splits_wrap hks (by simp))
      (isAtom_gather_group _ _ (hks.closes 0)) Nat.one_pos⟩

lemma Legible.isCut (h : Legible e) : IsCut e := by
  induction h with
  | leaf h => exact isCut_leaf h
  | text t => exact isCut_text t
  | charIn h => exact isCut_charIn h
  | charNotIn h => exact isCut_charNotIn h
  | special h => exact ⟨_, cut_sign (splits_special h)⟩
  | backReference id => exact isCut_backReference id
  | setOptions o => exact (isCut_options o).1
  | resetOptions o => exact (isCut_options o).2
  | repeated _ times ih => exact ih.repeated times
  | either _ ih => exact isCut_either ih
  | sequence _ ih => exact exists_cut_row ih
  | group _ kind hcapture ih => exact ih.group kind hcapture

/-! ### The operand -/

/-- The grammar of `p` with the repetition of `e` behind it has the tokens of `p` and then those of
`e`, directives and one atom, behind which the quantifier stands. -/
def Binds (p e : Element) (times : Repeat) : Prop :=
  ∃ before directives operand, tokens? p.grammar = some before ∧
    tokens? (sequence [p, repeated e times]).grammar = some (before ++ (directives ++ operand ++
      ofRepeat times)) ∧
    AllDirectives directives ∧ IsAtom operand ∧
    texts (directives ++ operand) = unit e.weight e.grammar

lemma grammar_sequence_repeated (p e : Element) (times : Repeat) :
    (sequence [p, repeated e times]).grammar =
      p.grammar ++ (unit e.weight e.grammar ++ times.grammar) := by
  have hgrammars : (sequence [p, repeated e times]).grammar =
      p.grammar ++ ((unit e.weight e.grammar ++ times.grammar) ++ []) := rfl
  rw [hgrammars, List.append_nil]

end Element

namespace Token

variable {g : Text} {ks : List Token}

/-- A single piece that ends in an atom is directives and that atom. -/
lemma Single.exists_operand (h : Single ks) (hends : EndsInItem ks) :
    ∃ directives operand, gather ks = directives ++ operand ∧ AllDirectives directives ∧
      IsAtom operand := by
  obtain ⟨before, atom, after, rfl, hbefore, hafter, hatom⟩ := h
  have hnil : after = [] := by
    by_contra hne
    rw [endsInItem_append_of_ne_nil hne] at hends
    exact hafter.not_endsInItem hends
  subst hnil
  rw [List.append_nil] at hends ⊢
  rcases hatom with rfl | hatom
  · rw [List.append_nil] at hends
    exact absurd hends hbefore.not_endsInItem
  · refine ⟨before, gather atom, ?_, hbefore, hatom⟩
    rw [gather_append, gather_of_allDirectives hbefore]
    rintro ⟨⟨init, number, hsplit⟩, -⟩
    rw [gather_of_allDirectives hbefore] at hsplit
    have hkind := hbefore ⟨.reference, number⟩ (by simp [hsplit])
    cases hkind

end Token

namespace Element

variable {p e : Element}

/-- In the grammar of an element with a repetition behind it, the quantifier has the repeated element
and nothing else as its operand, up to directives in front, just if the element weighs more than one
or ends in something that is no directive, and if it does not begin with a digit that a reference at
the end in front of it takes. -/
theorem quantifier_binds_iff (hp : Legible p) (he : Legible e) (times : Repeat) :
    (∃ ks, tokens? (sequence [p, repeated e times]).grammar = some ks) ∧
      (Binds p e times ↔
        (1 < e.weight ∨ e.endsInItem = true) ∧
          ¬((∃ init number, tokens? p.grammar = some (init ++ [⟨.reference, number⟩])) ∧
            ∃ c, (unit e.weight e.grammar).head? = some c ∧ c.isDigit = true)) := by
  obtain ⟨ps, hps⟩ := hp.isCut
  obtain ⟨ks, hks⟩ := he.isCut
  obtain ⟨us, hus⟩ := hks.unit
  have hall : tokens? (sequence [p, repeated e times]).grammar =
      some (gather (ps ++ (us ++ ofRepeat times))) := by
    rw [grammar_sequence_repeated]
    exact (hps.splits.append (hus.splits.append (splits_ofRepeat times))).tokens?_eq
  have hbefore : tokens? p.grammar = some (gather ps) := hps.splits.tokens?_eq
  have hreference : (∃ init number, tokens? p.grammar = some (init ++ [⟨.reference, number⟩])) ↔
      EndsInReference (gather ps) := by
    rw [hbefore]
    simp only [Option.some.injEq]
    rfl
  have hends : (1 < e.weight ∨ e.endsInItem = true) ↔ EndsInItem us := by
    rw [← hus.ends_iff, Bool.or_eq_true, decide_eq_true_eq]
  rw [hreference, hends, ← hus.splits.beginsWithDigit_iff, ← beginsWithDigit_append_ofRepeat us times]
  refine ⟨⟨_, hall⟩, ?_⟩
  constructor
  · rintro ⟨before, directives, operand, hbefore', hall', -, hoperand, -⟩
    obtain rfl : gather ps = before := Option.some.inj (hbefore.symm.trans hbefore')
    have hsplit := Option.some.inj (hall.symm.trans hall')
    have hapart : ¬(EndsInReference (gather ps) ∧ BeginsWithDigit (us ++ ofRepeat times)) :=
      fun hmeet => gather_append_ne hmeet.1 hmeet.2 _ hsplit
    refine ⟨?_, hapart⟩
    rw [gather_append hapart, gather_append_ofRepeat, List.append_cancel_left_eq,
      List.append_cancel_right_eq] at hsplit
    refine endsInItem_of_gather (hsplit ▸ ?_)
    exact (endsInItem_append_of_ne_nil hoperand.ne_nil).mpr hoperand.endsInItem
  · rintro ⟨hlast, hapart⟩
    obtain ⟨directives, operand, hgather, hdirectives, hoperand⟩ :=
      (hus.single le_rfl).exists_operand hlast
    refine ⟨gather ps, directives, operand, hbefore, ?_, hdirectives, hoperand, ?_⟩
    · rw [hall, gather_append hapart, gather_append_ofRepeat, hgather]
    · rw [← hgather, texts_gather, hus.splits.texts_eq]

/-- In `\d?\1(?-i)[a\]]{2,3}?` the set is repeated, which stands behind a directive, and neither that
nor the reference nor the digit. -/
theorem quantifier_binds_iff_directive :
    let p := sequence [repeated digit (.optional none), backReference 0]
    let e := sequence [setOptions { matchCase := true }, charIn ['a', ']']]
    let times := Repeat.between 2 3 (some .reluctant)
    Legible p ∧ Legible e ∧
      (sequence [p, repeated e times]).grammar = "\\d?\\1(?-i)[a\\]]\x7b2,3\x7d?".toList ∧
      Binds p e times := by
  intro p e times
  have hp : Legible p := by
    refine .sequence fun c hc => ?_
    simp only [List.mem_cons, List.not_mem_nil, or_false] at hc
    rcases hc with rfl | rfl
    · exact .repeated (.leaf rfl) _
    · exact .backReference 0
  have he : Legible e := by
    refine .sequence fun c hc => ?_
    simp only [List.mem_cons, List.not_mem_nil, or_false] at hc
    rcases hc with rfl | rfl
    · exact .setOptions _
    · exact .charIn (List.cons_ne_nil _ _)
  have hunit : (unit e.weight e.grammar).head? = some '(' := by decide +kernel
  refine ⟨hp, he, by decide +kernel, (quantifier_binds_iff hp he times).2.mpr ⟨.inr rfl, ?_⟩⟩
  rintro ⟨-, c, hc, hdigit⟩
  obtain rfl : '(' = c := Option.some.inj (hunit.symm.trans hc)
  cases hdigit

lemma not_binds {times : Repeat} {before all : List Token} (hbefore : tokens? p.grammar = some before)
    (hall : tokens? (sequence [p, repeated e times]).grammar = some all)
    (h : ∀ ks, all = before ++ (ks ++ ofRepeat times) → ¬EndsInItem ks) : ¬Binds p e times := by
  rintro ⟨before', directives, operand, hbefore', hall', -, hoperand, -⟩
  obtain rfl : before = before' := Option.some.inj (hbefore.symm.trans hbefore')
  refine h (directives ++ operand) (Option.some.inj (hall.symm.trans hall')) ?_
  exact (endsInItem_append_of_ne_nil hoperand.ne_nil).mpr hoperand.endsInItem

/-- Behind a text that is empty the question mark repeats the `a` in front, so that `b` has a match.
Behind a directive the plus has nothing to repeat, and the digit behind a reference belongs to that. -/
theorem quantifier_binds_iff_unwritten :
    let once := Repeat.optional none
    let often := Repeat.oneOrMore none
    let cased := sequence [digit, setOptions { matchCase := true }]
    (sequence [text ['a'], repeated (text []) once]).grammar = "a?".toList ∧
      ¬Binds (text ['a']) (text []) once ∧
      (∃ r : Regex, Regex.compile? "a?".toList (.ofCase true) = some r ∧
        r.locate ['b'] = some (.ofBounds 0 0)) ∧
      (sequence [start, repeated cased often]).grammar = "^\\d(?-i)+".toList ∧
      ¬Binds start cased often ∧
      (sequence [backReference 0, repeated (text ['1']) once]).grammar = "\\11?".toList ∧
      ¬Binds (backReference 0) (text ['1']) once := by
  intro once often cased
  have hunwritten : (sequence [text ['a'], repeated (text []) once]).grammar = "a?".toList := by
    decide +kernel
  have hdirective : (sequence [start, repeated cased often]).grammar = "^\\d(?-i)+".toList := by
    decide +kernel
  have hreference : (sequence [backReference 0, repeated (text ['1']) once]).grammar =
      "\\11?".toList := by decide +kernel
  refine ⟨hunwritten, ?_, ?_, hdirective, ?_, hreference, ?_⟩
  · have hgrammar : (text ['a']).grammar = ['a'] := by decide +kernel
    have hbefore : tokens? (text ['a']).grammar = some [⟨.sign, ['a']⟩] := by rw [hgrammar]; cbv
    have hall : tokens? (sequence [text ['a'], repeated (text []) once]).grammar =
        some ([⟨.sign, ['a']⟩] ++ ([] ++ ofRepeat once)) := by rw [hunwritten]; cbv
    refine not_binds hbefore hall fun ks hks => ?_
    rw [List.append_cancel_left_eq, List.append_cancel_right_eq] at hks
    exact hks ▸ not_endsInItem_nil
  · exact ⟨(Regex.compile? "a?".toList (.ofCase true)).get (by decide +kernel), by decide +kernel,
      by decide +kernel⟩
  · have hgrammar : start.grammar = ['^'] := rfl
    have hbefore : tokens? start.grammar = some [⟨.sign, ['^']⟩] := by rw [hgrammar]; cbv
    have hall : tokens? (sequence [start, repeated cased often]).grammar = some ([⟨.sign, ['^']⟩] ++
        ([⟨.sign, "\\d".toList⟩, ⟨.directive, "(?-i)".toList⟩] ++ ofRepeat often)) := by
      rw [hdirective]; cbv
    refine not_binds hbefore hall fun ks hks => ?_
    rw [List.append_cancel_left_eq, List.append_cancel_right_eq] at hks
    simp [← hks, EndsInItem]
  · have hgrammar : (backReference 0).grammar = "\\1".toList := by decide +kernel
    have hbefore : tokens? (backReference 0).grammar = some [⟨.reference, "\\1".toList⟩] := by
      rw [hgrammar]; cbv
    have hall : tokens? (sequence [backReference 0, repeated (text ['1']) once]).grammar =
        some [⟨.reference, "\\11".toList⟩, ⟨.quantifier, ['?']⟩] := by rw [hreference]; cbv
    refine not_binds hbefore hall fun ks hks => ?_
    cases (List.cons.inj hks).1

end Element

end PatternAlgebra
