import PatternAlgebra.Proofs.Element.Signs

/-! Grammars cut into tokens. Each token is found by what it begins with, but for the reference to a
capture, which takes all digits behind it: where the tokens of two texts meet, these are the only ones
that grow together. What makes up an element's grammar is cut as it was put together. -/
namespace PatternAlgebra

inductive TokenKind where
  /-- A character, an escape or a set. -/
  | sign
  /-- A backslash and the number of a capture. -/
  | reference
  /-- Options between parentheses. -/
  | directive
  | opening
  | closing
  | bar
  /-- How often the item in front repeats, or, behind another quantifier, how that one collects. -/
  | quantifier
  deriving DecidableEq, Repr

structure Token where
  kind : TokenKind
  text : Text
  deriving DecidableEq, Repr

/-- Whether a name that is written as it is ends where it should. -/
def SpecialChar.WellNamed : SpecialChar → Prop
  | control name => name.length = 1
  | named name | withProperty name | withoutProperty name => '\x7d' ∉ name
  | _ => True

namespace Token

/-- What stands behind a name in braces. -/
def skipBraced? : Text → Option Text
  | '\x7b' :: t =>
    match t.dropWhile (· != '\x7d') with
    | [] => none
    | _ :: t => some t
  | _ => none

/-- An escape, from what stands behind its backslash. -/
def readEscape? : Text → Option (TokenKind × Text)
  | [] => none
  | c :: t =>
    if c.isDigit then some (.reference, t)
    else if "xpPN".toList.contains c then (skipBraced? t).map (.sign, ·)
    else if c = 'u' then
      if 4 ≤ t.length && (t.take 4).all Text.isHexDigit then some (.sign, t.drop 4) else none
    else if c = 'c' then if t.isEmpty then none else some (.sign, t.tail)
    else some (.sign, t)

/-- A directive, from what stands behind its parenthesis. -/
def readDirective? : Text → Option (TokenKind × Text)
  | '?' :: t =>
    let (flags, t) := t.span fun c => c.isAlpha || c == '-'
    match t with
    | ')' :: t => if flags.isEmpty then none else some (.directive, t)
    | _ => none
  | _ => none

/-- A token that is no quantifier. -/
def readOther? : Text → Option (TokenKind × Text)
  | [] => none
  | '\\' :: t => readEscape? t
  | '[' :: t => (Sign.set? t).map fun (_, t) => (.sign, t)
  | '(' :: t =>
    match GroupKind.read? t with
    | some (_, t) => some (.opening, t)
    | none => readDirective? t
  | ')' :: t => some (.closing, t)
  | '|' :: t => some (.bar, t)
  | '\x7b' :: _ => none
  | _ :: t => some (.sign, t)

/-- The kind of the first token and what stands behind it. -/
def read? (t : Text) : Option (TokenKind × Text) :=
  match Repeat.readCore? t with
  | some (_, t) => some (.quantifier, t)
  | none => readOther? t

/-- The tokens of a text, where references end behind their first digits. -/
def readEach? (t : Text) : Option (List Token) :=
  if t.isEmpty then some []
  else
    match read? t with
    | none => none
    | some (kind, rest) =>
      if rest.length < t.length then
        (readEach? rest).map (⟨kind, t.take (t.length - rest.length)⟩ :: ·)
      else none
termination_by t.length

def isDigit : Token → Bool
  | ⟨.sign, [c]⟩ => c.isDigit
  | _ => false

def texts (ks : List Token) : Text := ks.flatMap (·.text)

/-- Puts a token behind others, which come last first. A digit behind a reference belongs to that. -/
def push : List Token → Token → List Token
  | ⟨.reference, number⟩ :: ks, k =>
    if k.isDigit then ⟨.reference, number ++ k.text⟩ :: ks else k :: ⟨.reference, number⟩ :: ks
  | ks, k => k :: ks

/-- The tokens with references up to their last digits. -/
def gather (ks : List Token) : List Token := (ks.foldl push []).reverse

end Token

def tokens? (t : Text) : Option (List Token) := (Token.readEach? t).map Token.gather

example : tokens? "\\10(?-i)[a\\]]\x7b2,\x7d+".toList =
    some [⟨.reference, "\\10".toList⟩, ⟨.directive, "(?-i)".toList⟩, ⟨.sign, "[a\\]]".toList⟩,
      ⟨.quantifier, "\x7b2,\x7d".toList⟩, ⟨.quantifier, ['+']⟩] := by cbv

namespace Token

/-- How many groups are open behind some tokens. There is no group to be closed where none is open. -/
def depthAfter? : ℕ → List Token → Option ℕ
  | d, [] => some d
  | d, k :: ks =>
    if k.kind = .opening then depthAfter? (d + 1) ks
    else if k.kind = .closing then if d = 0 then none else depthAfter? (d - 1) ks
    else depthAfter? d ks

variable {g h : Text} {k : Token} {ks ls xs ys : List Token}

@[simp] lemma texts_nil : texts [] = [] := rfl

@[simp] lemma texts_cons (k : Token) (ks : List Token) : texts (k :: ks) = k.text ++ texts ks := rfl

@[simp] lemma texts_append (ks ls : List Token) : texts (ks ++ ls) = texts ks ++ texts ls :=
  List.flatMap_append

lemma depthAfter?_append (d : ℕ) (ks ls : List Token) :
    depthAfter? d (ks ++ ls) = (depthAfter? d ks).bind (depthAfter? · ls) := by
  induction ks generalizing d with
  | nil => rfl
  | cons k ks ih =>
    rw [List.cons_append, depthAfter?, depthAfter?]
    split_ifs <;> first | rfl | exact ih _

lemma depthAfter?_cons_of_plain (hopening : k.kind ≠ .opening) (hclosing : k.kind ≠ .closing) (d : ℕ)
    (ks : List Token) : depthAfter? d (k :: ks) = depthAfter? d ks := by
  rw [depthAfter?, if_neg hopening, if_neg hclosing]

/-! ### Gathering digits -/

def EndsInReference (ks : List Token) : Prop := ∃ init number, ks = init ++ [⟨.reference, number⟩]

def BeginsWithDigit (ks : List Token) : Prop := ∃ k ∈ ks.head?, k.isDigit = true

lemma exists_eq_of_isDigit (h : k.isDigit = true) : ∃ c, k = ⟨.sign, [c]⟩ ∧ c.isDigit = true := by
  unfold isDigit at h
  split at h
  · exact ⟨_, rfl, h⟩
  · contradiction

lemma push_of_apart (h : ¬(EndsInReference ks.reverse ∧ k.isDigit = true)) : push ks k = k :: ks := by
  unfold push
  split
  · rename_i number ls
    have hends : EndsInReference (⟨.reference, number⟩ :: ls : List Token).reverse :=
      ⟨ls.reverse, number, List.reverse_cons⟩
    exact if_neg fun hk => h ⟨hends, hk⟩
  · rfl

lemma push_of_not_isDigit (hk : k.isDigit = false) (ks : List Token) : push ks k = k :: ks :=
  push_of_apart fun hmeet => Bool.false_ne_true (hk.symm.trans hmeet.2)

lemma push_reference (hk : k.isDigit = true) (number : Text) (ks : List Token) :
    push (⟨.reference, number⟩ :: ks) k = ⟨.reference, number ++ k.text⟩ :: ks := if_pos hk

/-- Only the last token can take a digit. -/
lemma push_append (hne : ks ≠ []) (ls : List Token) (k : Token) :
    push (ks ++ ls) k = push ks k ++ ls := by
  obtain ⟨l, ks, rfl⟩ := List.exists_cons_of_ne_nil hne
  obtain ⟨kind, text⟩ := l
  cases kind with
  | reference =>
    simp only [List.cons_append, push]
    split_ifs <;> rfl
  | _ => rfl

lemma push_ne_nil (ks : List Token) (k : Token) : push ks k ≠ [] := by
  unfold push
  split
  · split_ifs <;> exact List.cons_ne_nil _ _
  · exact List.cons_ne_nil _ _

lemma foldl_push_append (hne : ks ≠ []) (ls xs : List Token) :
    xs.foldl push (ks ++ ls) = xs.foldl push ks ++ ls := by
  induction xs generalizing ks with
  | nil => rfl
  | cons x xs ih =>
    rw [List.foldl_cons, List.foldl_cons, push_append hne, ih (push_ne_nil ks x)]

/-- Tokens are gathered apart unless digits meet a reference. -/
lemma gather_append (h : ¬(EndsInReference (gather xs) ∧ BeginsWithDigit ys)) :
    gather (xs ++ ys) = gather xs ++ gather ys := by
  cases ys with
  | nil => simp [gather]
  | cons y ys =>
    have hpush : push (xs.foldl push []) y = [y] ++ xs.foldl push [] := by
      refine push_of_apart fun hmeet => h ⟨hmeet.1, y, rfl, hmeet.2⟩
    have hfold : (xs ++ y :: ys).foldl push [] = ys.foldl push [y] ++ xs.foldl push [] := by
      rw [List.foldl_append, List.foldl_cons, hpush, foldl_push_append (List.cons_ne_nil y [])]
    have hrest : (y :: ys).foldl push [] = ys.foldl push [y] := rfl
    rw [gather, hfold, List.reverse_append, gather, gather, hrest]

lemma gather_eq_self (h : ∀ k ∈ ks, k.isDigit = false) : gather ks = ks := by
  have hfold (ls : List Token) : ks.foldl push ls = ks.reverse ++ ls := by
    induction ks generalizing ls with
    | nil => rfl
    | cons k ks ih =>
      obtain ⟨hk, hks⟩ := List.forall_mem_cons.mp h
      rw [List.foldl_cons, push_of_not_isDigit hk, ih hks, List.reverse_cons, List.append_assoc,
        List.singleton_append]
  rw [gather, hfold, List.append_nil, List.reverse_reverse]

lemma isDigit_of_kind_ne (h : k.kind ≠ .sign) : k.isDigit = false := by
  by_contra hdigit
  rw [Bool.not_eq_false] at hdigit
  obtain ⟨c, rfl, -⟩ := exists_eq_of_isDigit hdigit
  exact h rfl

lemma gather_concat (hk : k.isDigit = false) (ks : List Token) :
    gather (ks ++ [k]) = gather ks ++ [k] := by
  have hone : gather [k] = [k] := gather_eq_self (by simpa using hk)
  have hnone : ¬BeginsWithDigit [k] := by simp [BeginsWithDigit, hk]
  rw [gather_append fun hmeet => hnone hmeet.2, hone]

lemma kind_of_endsInReference (h : EndsInReference (ks ++ [k])) : k.kind = .reference := by
  obtain ⟨init, number, hsplit⟩ := h
  obtain ⟨-, rfl⟩ := List.append_singleton_inj.mp hsplit
  rfl

lemma gather_cons (hk : k.kind ≠ .reference) (ks : List Token) : gather (k :: ks) = k :: gather ks := by
  change gather ([k] ++ ks) = gather [k] ++ gather ks
  refine gather_append ?_
  rintro ⟨hends, -⟩
  have hlast : EndsInReference ([] ++ [k]) := hends
  exact hk (kind_of_endsInReference hlast)

/-- A reference takes the digits that follow it. -/
lemma gather_reference {ds : Text} (hds : ∀ d ∈ ds, d.isDigit = true) (number : Text) :
    gather (⟨.reference, number⟩ :: ds.map fun d => ⟨.sign, [d]⟩) = [⟨.reference, number ++ ds⟩] := by
  have hfold : (ds.map fun d => (⟨.sign, [d]⟩ : Token)).foldl push [⟨.reference, number⟩] =
      [⟨.reference, number ++ ds⟩] := by
    induction ds generalizing number with
    | nil => simp
    | cons d ds ih =>
      obtain ⟨hd, hds⟩ := List.forall_mem_cons.mp hds
      have hdigit : isDigit ⟨.sign, [d]⟩ = true := hd
      rw [List.map_cons, List.foldl_cons, push_reference hdigit, ih hds, List.append_assoc,
        List.singleton_append]
  exact congrArg List.reverse hfold

/-- A reference stays one, with more digits. -/
lemma exists_foldl_push_reference (number : Text) (xs : List Token) :
    ∃ ks more, xs.foldl push [⟨.reference, number⟩] = ks ++ [⟨.reference, number ++ more⟩] := by
  induction xs generalizing number with
  | nil => exact ⟨[], [], by simp⟩
  | cons x xs ih =>
    cases hx : x.isDigit with
    | true =>
      obtain ⟨ks, more, hfold⟩ := ih (number ++ x.text)
      refine ⟨ks, x.text ++ more, ?_⟩
      rw [List.foldl_cons, push_reference hx, hfold, List.append_assoc]
    | false =>
      have hpush : push [⟨.reference, number⟩] x = [x] ++ [⟨.reference, number⟩] :=
        push_of_not_isDigit hx _
      refine ⟨xs.foldl push [x], [], ?_⟩
      rw [List.foldl_cons, hpush, foldl_push_append (List.cons_ne_nil x []), List.append_nil]

/-- Where digits meet a reference it is another one then. -/
lemma gather_append_ne (hends : EndsInReference (gather xs)) (hbegins : BeginsWithDigit ys)
    (zs : List Token) : gather (xs ++ ys) ≠ gather xs ++ zs := by
  obtain ⟨init, number, hgather⟩ := hends
  obtain ⟨y, hy, hdigit⟩ := hbegins
  obtain ⟨ys, rfl⟩ := List.head?_eq_some_iff.mp hy
  obtain ⟨c, rfl, -⟩ := exists_eq_of_isDigit hdigit
  have hfold : xs.foldl push [] = ⟨.reference, number⟩ :: init.reverse := by
    rw [← List.reverse_reverse (xs.foldl push []), ← gather, hgather]
    simp
  obtain ⟨ks, more, hmore⟩ := exists_foldl_push_reference (number ++ [c]) ys
  have hall : gather (xs ++ ⟨.sign, [c]⟩ :: ys) =
      init ++ ⟨.reference, number ++ [c] ++ more⟩ :: ks.reverse := by
    rw [gather, List.foldl_append, hfold, List.foldl_cons, push_reference hdigit]
    have hsplit := foldl_push_append (List.cons_ne_nil ⟨.reference, number ++ [c]⟩ []) init.reverse ys
    rw [List.singleton_append] at hsplit
    rw [hsplit, hmore]
    simp
  rw [hall, hgather]
  intro heq
  simp at heq

lemma texts_push (ks : List Token) (k : Token) :
    texts (push ks k).reverse = texts ks.reverse ++ k.text := by
  unfold push
  split
  · split_ifs <;> simp
  · simp

lemma texts_gather (xs : List Token) : texts (gather xs) = texts xs := by
  have hfold (ks : List Token) : texts (xs.foldl push ks).reverse = texts ks.reverse ++ texts xs := by
    induction xs generalizing ks with
    | nil => simp
    | cons x xs ih => rw [List.foldl_cons, ih, texts_push, texts_cons, List.append_assoc]
  exact hfold []

lemma depthAfter?_push (d : ℕ) (ks : List Token) (k : Token) :
    depthAfter? d (push ks k).reverse = depthAfter? d (k :: ks).reverse := by
  by_cases h : EndsInReference ks.reverse ∧ k.isDigit = true
  · obtain ⟨⟨init, number, hks⟩, hk⟩ := h
    obtain ⟨c, rfl, -⟩ := exists_eq_of_isDigit hk
    have hfold : ks = ⟨.reference, number⟩ :: init.reverse := by
      rw [← List.reverse_reverse ks, hks]
      simp
    rw [hfold, push_reference hk]
    simp [depthAfter?_append, depthAfter?]
  · rw [push_of_apart h]

lemma depthAfter?_gather (d : ℕ) (xs : List Token) : depthAfter? d (gather xs) = depthAfter? d xs := by
  have hfold (ks : List Token) :
      depthAfter? d (xs.foldl push ks).reverse = depthAfter? d (ks.reverse ++ xs) := by
    induction xs generalizing ks with
    | nil => simp
    | cons x xs ih =>
      rw [List.foldl_cons, ih, depthAfter?_append, depthAfter?_push, List.reverse_cons,
        ← depthAfter?_append, List.append_assoc, List.singleton_append]
  exact hfold []

/-! ### Texts that are cut in one way -/

lemma readEach?_nil : readEach? [] = some [] := by
  rw [readEach?]
  rfl

lemma readEach?_of_read? {kind : TokenKind} {rest : Text} (hg : g ≠ [])
    (h : read? (g ++ rest) = some (kind, rest)) :
    readEach? (g ++ rest) = (readEach? rest).map (⟨kind, g⟩ :: ·) := by
  have hpos := List.length_pos_iff.mpr hg
  have hne : (g ++ rest).isEmpty = false := by simp [hg]
  have hlength : (g ++ rest).length - rest.length = g.length := by
    rw [List.length_append]
    omega
  have hlt : rest.length < (g ++ rest).length := by
    rw [List.length_append]
    omega
  rw [readEach?, hne, h]
  simp only [Bool.false_eq_true, if_false, hlt, if_true, hlength, List.take_left]

/-- A text that is cut into the same tokens whatever follows it, with all its groups closed. -/
structure Splits (g : Text) (ks : List Token) : Prop where
  reads : ∀ rest, readEach? (g ++ rest) = (readEach? rest).map (ks ++ ·)
  texts_eq : texts ks = g
  closes : ∀ d, depthAfter? d ks = some d

lemma splits_nil : Splits [] [] where
  reads rest := by simp
  texts_eq := rfl
  closes _ := rfl

lemma splits_token {kind : TokenKind} (hg : g ≠ [])
    (hread : ∀ rest, read? (g ++ rest) = some (kind, rest)) (hopening : kind ≠ .opening)
    (hclosing : kind ≠ .closing) : Splits g [⟨kind, g⟩] where
  reads rest := readEach?_of_read? hg (hread rest)
  texts_eq := by simp
  closes d := by rw [depthAfter?_cons_of_plain hopening hclosing, depthAfter?]

lemma splits_sign (hg : g ≠ []) (hread : ∀ rest, read? (g ++ rest) = some (.sign, rest)) :
    Splits g [⟨.sign, g⟩] := splits_token hg hread (by decide) (by decide)

namespace Splits

lemma append (hg : Splits g ks) (hh : Splits h ls) : Splits (g ++ h) (ks ++ ls) where
  reads rest := by
    rw [List.append_assoc, hg.reads, hh.reads, Option.map_map]
    simp [Function.comp_def]
  texts_eq := by rw [texts_append, hg.texts_eq, hh.texts_eq]
  closes d := by rw [depthAfter?_append, hg.closes, Option.bind_some, hh.closes]

/-- Around a text whose groups are closed there can be another one. -/
lemma wrap (hg : Splits g ks) {mark : Text} (hmark : mark ≠ [])
    (hread : ∀ rest, read? (mark ++ (g ++ ')' :: rest)) = some (.opening, g ++ ')' :: rest)) :
    Splits (Element.wrap mark g) (⟨.opening, mark⟩ :: (ks ++ [⟨.closing, [')']⟩])) where
  reads rest := by
    have hclosing : readEach? (')' :: rest) = (readEach? rest).map (⟨.closing, [')']⟩ :: ·) :=
      readEach?_of_read? (g := [')']) (List.cons_ne_nil _ _) rfl
    have hsplit : Element.wrap mark g ++ rest = mark ++ (g ++ ')' :: rest) := by simp [Element.wrap]
    rw [hsplit, readEach?_of_read? hmark (hread rest), hg.reads, hclosing, Option.map_map,
      Option.map_map]
    simp [Function.comp_def]
  texts_eq := by simp [Element.wrap, hg.texts_eq]
  closes d := by
    rw [depthAfter?, if_pos rfl, depthAfter?_append, hg.closes]
    simp [depthAfter?]

lemma readEach?_eq (hg : Splits g ks) : readEach? g = some ks := by
  have hreads := hg.reads []
  rw [List.append_nil, readEach?_nil] at hreads
  simpa using hreads

lemma tokens?_eq (hg : Splits g ks) : tokens? g = some (gather ks) := by
  rw [tokens?, hg.readEach?_eq, Option.map_some]

lemma eq_nil_iff (hg : Splits g ks) : ks = [] ↔ g = [] := by
  constructor
  · rintro rfl
    exact hg.texts_eq.symm
  · rintro rfl
    exact (Option.some.inj (readEach?_nil.symm.trans hg.readEach?_eq)).symm

end Splits

/-! ### Signs -/

lemma read?_of_not_special {c : Char} (hc : isSpecialChar c = false) (t : Text) :
    read? (c :: t) = some (.sign, t) := by
  have hne {d : Char} (hd : isSpecialChar d = true) : c ≠ d := Sign.ne_of_not_special hc hd
  rw [read?, Repeat.readCore?_eq_none t (hne (by decide)) (hne (by decide)) (hne (by decide))
    (hne (by decide))]
  change readOther? (c :: t) = _
  rw [readOther?] <;> exact hne (by decide)

lemma read?_of_special {c : Char} (hc : isSpecialChar c = true) (t : Text) :
    read? ('\\' :: c :: t) = some (.sign, t) := by
  have hplain : (!c.isDigit && !"xpPN".toList.contains c && c != 'u' && c != 'c') = true :=
    Sign.eq_true_of_special
      (p := fun c => !c.isDigit && !"xpPN".toList.contains c && c != 'u' && c != 'c') (by decide) hc
  have hescape : readEscape? (c :: t) = some (.sign, t) := by
    simp only [Bool.and_eq_true, Bool.not_eq_true', bne_iff_ne] at hplain
    obtain ⟨⟨⟨hdigit, hname⟩, hcode⟩, hcontrol⟩ := hplain
    rw [readEscape?, hdigit, hname, if_neg Bool.false_ne_true, if_neg Bool.false_ne_true, if_neg hcode,
      if_neg hcontrol]
  exact hescape

lemma splits_escapeEach_singleton (c : Char) : Splits (escapeEach [c]) [⟨.sign, escapeEach [c]⟩] := by
  cases hc : isSpecialChar c with
  | true =>
    rw [Sign.escapeEach_cons_of_special hc]
    exact splits_sign (List.cons_ne_nil _ _) (read?_of_special hc)
  | false =>
    rw [Sign.escapeEach_cons_of_not_special hc]
    exact splits_sign (List.cons_ne_nil _ _) (read?_of_not_special hc)

lemma not_special_of_isDigit {d : Char} (hd : d.isDigit = true) : isSpecialChar d = false := by
  by_contra hspecial
  rw [Bool.not_eq_false] at hspecial
  have hplain : (!d.isDigit) = true :=
    Sign.eq_true_of_special (p := fun c => !c.isDigit) (by decide) hspecial
  simp [hd] at hplain

lemma splits_digits {ds : Text} (hds : ∀ d ∈ ds, d.isDigit = true) :
    Splits ds (ds.map fun d => ⟨.sign, [d]⟩) := by
  induction ds with
  | nil => exact splits_nil
  | cons d ds ih =>
    obtain ⟨hd, hds⟩ := List.forall_mem_cons.mp hds
    have hsign : Splits [d] [⟨.sign, [d]⟩] :=
      splits_sign (List.cons_ne_nil _ _) (read?_of_not_special (not_special_of_isDigit hd))
    exact hsign.append (ih hds)

lemma splits_set {mark cs : Text} {e : Element}
    (hset : ∀ t, Sign.set? (mark ++ (escapeEach cs ++ ']' :: t)) = some (e, t)) :
    Splits ('[' :: (mark ++ (escapeEach cs ++ [']'])))
      [⟨.sign, '[' :: (mark ++ (escapeEach cs ++ [']']))⟩] := by
  refine splits_sign (List.cons_ne_nil _ _) fun rest => ?_
  have hsplit : '[' :: (mark ++ (escapeEach cs ++ [']'])) ++ rest =
      '[' :: (mark ++ (escapeEach cs ++ ']' :: rest)) := by simp
  have hread : readOther? ('[' :: (mark ++ (escapeEach cs ++ ']' :: rest))) = some (.sign, rest) := by
    rw [readOther?, hset rest]
    rfl
  rw [hsplit]
  exact hread

lemma skipBraced?_braces {body : Text} (hbody : '\x7d' ∉ body) (t : Text) :
    skipBraced? (Repeat.braces body ++ t) = some t := by
  have hall : ∀ c ∈ body, (c != '\x7d') = true := fun c hc => by
    rw [bne_iff_ne]
    rintro rfl
    exact hbody hc
  have hdrop : (body ++ '\x7d' :: t).dropWhile (· != '\x7d') = '\x7d' :: t := by
    rw [List.dropWhile_append_of_pos hall, List.dropWhile_cons_of_neg (by simp)]
  have hsplit : Repeat.braces body ++ t = '\x7b' :: (body ++ '\x7d' :: t) := by simp [Repeat.braces]
  rw [hsplit, skipBraced?, hdrop]

lemma splits_braced {c : Char} (hc : "xpPN".toList.contains c = true) {body : Text}
    (hbody : '\x7d' ∉ body) :
    Splits (SpecialChar.braced c body) [⟨.sign, SpecialChar.braced c body⟩] := by
  refine splits_sign (List.cons_ne_nil _ _) fun rest => ?_
  have hdigit : c.isDigit = false := by
    have hall : "xpPN".toList.all (!·.isDigit) = true := by decide
    simpa using List.all_eq_true.mp hall c (List.contains_iff_mem.mp hc)
  have hescape : readEscape? (c :: (Repeat.braces body ++ rest)) = some (.sign, rest) := by
    rw [readEscape?, hdigit, if_neg Bool.false_ne_true, if_pos hc, skipBraced?_braces hbody]
    rfl
  exact hescape

lemma splits_special {s : SpecialChar} (h : s.WellNamed) : Splits s.grammar [⟨.sign, s.grammar⟩] := by
  cases s with
  | codePoint n =>
    have hdigit : ∀ d < 16, Nat.digitChar d ≠ '\x7d' := by decide
    have hhex : ∀ c ∈ Text.hex n, c ≠ '\x7d' := Text.forall_mem_toDigits (by decide) hdigit n
    exact splits_braced (by decide) fun hmem => hhex _ hmem rfl
  | named name => exact splits_braced (by decide) h
  | withProperty name => exact splits_braced (by decide) h
  | withoutProperty name => exact splits_braced (by decide) h
  | control name =>
    obtain ⟨c, rfl⟩ := List.length_eq_one_iff.mp h
    exact splits_sign (List.cons_ne_nil _ _) fun _ => rfl
  | backspace =>
    refine splits_sign (List.cons_ne_nil _ _) fun rest => ?_
    have hescape : readEscape? ("u0008".toList ++ rest) = some (.sign, rest) := by
      simp [readEscape?, Text.isHexDigit]
    exact hescape
  | _ => exact splits_sign (List.cons_ne_nil _ _) fun _ => rfl

/-! ### Quantifiers -/

lemma splits_core (times : Repeat) : Splits times.core [⟨.quantifier, times.core⟩] := by
  refine splits_token ?_ (fun rest => ?_) (by decide) (by decide)
  · cases times <;> simp [Repeat.core, Repeat.braces]
  · obtain ⟨f, hcore, -⟩ := Repeat.readCore?_core times rest
    rw [read?, hcore]

/-- A quantifier and its mark. -/
def ofRepeat (times : Repeat) : List Token :=
  ⟨.quantifier, times.core⟩ :: times.collect.elim [] fun c => [⟨.quantifier, c.mark⟩]

lemma splits_ofRepeat (times : Repeat) : Splits times.grammar (ofRepeat times) := by
  have hmark : Splits (times.collect.elim [] Collect.mark)
      (times.collect.elim [] fun c => [⟨.quantifier, c.mark⟩]) := by
    cases times.collect with
    | none => exact splits_nil
    | some c =>
      cases c <;> exact splits_token (List.cons_ne_nil _ _) (fun _ => rfl) (by decide) (by decide)
  exact (splits_core times).append hmark

lemma kind_of_mem_ofRepeat {times : Repeat} (h : k ∈ ofRepeat times) : k.kind = .quantifier := by
  rcases List.mem_cons.mp h with rfl | h
  · rfl
  · cases hc : times.collect with
    | none => simp [hc] at h
    | some c => simp_all

/-- Digits stand in front of a quantifier just if they stand in front. -/
lemma beginsWithDigit_append_ofRepeat (ks : List Token) (times : Repeat) :
    BeginsWithDigit (ks ++ ofRepeat times) ↔ BeginsWithDigit ks := by
  cases ks with
  | nil => simp [BeginsWithDigit, ofRepeat, isDigit]
  | cons k ks => simp [BeginsWithDigit]

lemma gather_append_ofRepeat (ks : List Token) (times : Repeat) :
    gather (ks ++ ofRepeat times) = gather ks ++ ofRepeat times := by
  have hself : gather (ofRepeat times) = ofRepeat times :=
    gather_eq_self fun k hk => isDigit_of_kind_ne (by simp [kind_of_mem_ofRepeat hk])
  have hnone : ¬BeginsWithDigit (ofRepeat times) := by simp [BeginsWithDigit, ofRepeat, isDigit]
  rw [gather_append fun hmeet => hnone hmeet.2, hself]

lemma Splits.beginsWithDigit_iff (hg : Splits g ks) :
    BeginsWithDigit ks ↔ ∃ c, g.head? = some c ∧ c.isDigit = true := by
  constructor
  · rintro ⟨k, hk, hdigit⟩
    obtain ⟨ks, rfl⟩ := List.head?_eq_some_iff.mp hk
    obtain ⟨c, rfl, hc⟩ := exists_eq_of_isDigit hdigit
    refine ⟨c, ?_, hc⟩
    rw [← hg.texts_eq]
    rfl
  · rintro ⟨c, hhead, hc⟩
    obtain ⟨t, rfl⟩ := List.head?_eq_some_iff.mp hhead
    have hread : readEach? ([c] ++ t) = (readEach? t).map (⟨.sign, [c]⟩ :: ·) :=
      readEach?_of_read? (List.cons_ne_nil c []) (read?_of_not_special (not_special_of_isDigit hc) t)
    obtain ⟨ls, -, rfl⟩ := Option.map_eq_some_iff.mp (hread.symm.trans hg.readEach?_eq)
    exact ⟨⟨.sign, [c]⟩, rfl, hc⟩

end Token

end PatternAlgebra
