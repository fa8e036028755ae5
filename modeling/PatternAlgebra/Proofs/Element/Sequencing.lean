import PatternAlgebra.Proofs.Element.Operands

/-! Elements in a row. Where two grammars meet, the tokens of both stay as they are, but for a
reference, which takes the digits behind it. No other token needs a look at what stands behind it:
even a capture that begins with a question mark, and so may be anything else or nothing at all, is
decided by its own text. -/
namespace PatternAlgebra

open Element

namespace Token

variable {g h mark : Text} {kind : TokenKind} {ks ls : List Token} {c : Char}

/-- A text that is cut into tokens of its own whatever follows it, or else is never cut. -/
def StandsAlone (g : Text) : Prop :=
  ∀ rest, readEach? (g ++ rest) = (readEach? g).bind fun ks => (readEach? rest).map (ks ++ ·)

lemma Splits.standsAlone (hg : Splits g ks) : StandsAlone g := by
  intro rest
  rw [hg.reads, hg.readEach?_eq, Option.bind_some]

lemma StandsAlone.append (hg : StandsAlone g) (hh : StandsAlone h) : StandsAlone (g ++ h) := by
  intro rest
  rw [List.append_assoc, hg, hg h, hh rest]
  cases readEach? g with
  | none => rfl
  | some ks =>
    cases readEach? h with
    | none => rfl
    | some ls => cases readEach? rest <;> simp

/-- A token in front decides nothing about what stands behind it. -/
lemma standsAlone_append_iff (hmark : mark ≠ [])
    (hread : ∀ rest, read? (mark ++ (g ++ rest)) = some (kind, g ++ rest)) :
    StandsAlone (mark ++ g) ↔ StandsAlone g := by
  have hcut (rest : Text) :
      readEach? (mark ++ (g ++ rest)) = (readEach? (g ++ rest)).map (⟨kind, mark⟩ :: ·) :=
    readEach?_of_read? hmark (hread rest)
  have hself := hcut []
  rw [List.append_nil] at hself
  refine forall_congr' fun rest => ?_
  have hbind :
      ((readEach? g).map (⟨kind, mark⟩ :: ·)).bind (fun ks => (readEach? rest).map (ks ++ ·)) =
        ((readEach? g).bind fun ks => (readEach? rest).map (ks ++ ·)).map (⟨kind, mark⟩ :: ·) := by
    cases readEach? g <;> simp [Function.comp_def]
  rw [List.append_assoc, hcut, hself, hbind]
  exact (Option.map_injective List.cons_injective).eq_iff

lemma standsAlone_of_read?_eq_none (hg : g ≠ []) (h : ∀ rest, read? (g ++ rest) = none) :
    StandsAlone g := by
  have hnone (rest : Text) : readEach? (g ++ rest) = none := by
    have hne : (g ++ rest).isEmpty = false := by simp [hg]
    rw [readEach?, hne, h rest]
    rfl
  have hself := hnone []
  rw [List.append_nil] at hself
  intro rest
  rw [hnone, hself, Option.bind_none]

lemma StandsAlone.tail (hg : StandsAlone (c :: g))
    (hread : ∀ t, read? (c :: t) = some (kind, t)) : StandsAlone g :=
  (standsAlone_append_iff (g := g) (List.cons_ne_nil c []) fun rest => hread (g ++ rest)).mp hg

lemma standsAlone_closing : StandsAlone [')'] := by
  have hread : ∀ rest, read? ([')'] ++ ([] ++ rest)) = some (.closing, [] ++ rest) := fun _ => rfl
  refine (standsAlone_append_iff (List.cons_ne_nil _ _) hread).mpr ?_
  exact splits_nil.standsAlone

lemma StandsAlone.wrap (hg : StandsAlone g) (hmark : mark ≠ [])
    (hread : ∀ rest, read? (mark ++ (g ++ ')' :: rest)) = some (.opening, g ++ ')' :: rest)) :
    StandsAlone (Element.wrap mark g) := by
  have hclosed : Element.wrap mark g = mark ++ (g ++ [')']) := by simp [Element.wrap]
  have hopening (rest : Text) :
      read? (mark ++ (g ++ [')'] ++ rest)) = some (.opening, g ++ [')'] ++ rest) := by
    rw [List.append_assoc]
    exact hread rest
  rw [hclosed]
  exact (standsAlone_append_iff hmark hopening).mpr (hg.append standsAlone_closing)

/-! ### A question mark at the beginning of a capture -/

/-- What may stand between the question mark of a directive and its end. -/
def isFlag (c : Char) : Bool := c.isAlpha || c == '-'

lemma read?_of_isFlag (hc : isFlag c = true) (t : Text) : read? (c :: t) = some (.sign, t) := by
  rw [isFlag, Bool.or_eq_true, beq_iff_eq] at hc
  rcases hc with hc | rfl
  · refine read?_of_not_special ?_ t
    by_contra hspecial
    rw [Bool.not_eq_false] at hspecial
    have hplain : (!c.isAlpha) = true :=
      Sign.eq_true_of_special (p := fun c => !c.isAlpha) (by decide) hspecial
    simp [hc] at hplain
  · rfl

lemma StandsAlone.of_flags {flags : Text} (hflags : ∀ c ∈ flags, isFlag c = true)
    (hg : StandsAlone (flags ++ g)) : StandsAlone g := by
  induction flags with
  | nil => exact hg
  | cons c flags ih =>
    obtain ⟨hc, hflags⟩ := List.forall_mem_cons.mp hflags
    exact ih hflags (hg.tail (read?_of_isFlag hc))

lemma readDirective?_of_flags {flags : Text} (hflags : ∀ c ∈ flags, isFlag c = true)
    (hc : isFlag c = false) (t : Text) :
    readDirective? ('?' :: (flags ++ c :: t)) =
      if c = ')' ∧ flags ≠ [] then some (.directive, t) else none := by
  have hspan : (flags ++ c :: t).span (fun c => c.isAlpha || c == '-') = (flags, c :: t) := by
    change (flags ++ c :: t).span isFlag = _
    rw [List.span_eq_takeWhile_dropWhile, List.takeWhile_append_of_pos hflags,
      List.dropWhile_append_of_pos hflags, List.takeWhile_cons_of_neg (by simp [hc]),
      List.dropWhile_cons_of_neg (by simp [hc]), List.append_nil]
  rw [readDirective?, hspan]
  by_cases hclosing : c = ')'
  · subst hclosing
    cases flags <;> simp
  · simp [hclosing]

/-- The flags of a directive end inside a text that is closed. -/
lemma standsAlone_flags (hg : StandsAlone g) (hclosed : ')' ∈ g)
    (hread : ∀ rest, read? ('(' :: '?' :: (g ++ rest)) = readDirective? ('?' :: (g ++ rest))) :
    StandsAlone ('(' :: '?' :: g) := by
  have hflags : ∀ c ∈ g.takeWhile isFlag, isFlag c = true := fun c hc => List.mem_takeWhile_imp hc
  have hne : g.dropWhile isFlag ≠ [] := by
    intro hnil
    have hall := List.dropWhile_eq_nil_iff.mp hnil _ hclosed
    cases hall
  obtain ⟨c, t, hrest⟩ := List.exists_cons_of_ne_nil hne
  have hc : isFlag c = false := by
    have hhead := List.head_dropWhile_not isFlag hne
    simpa [hrest] using hhead
  have hg' : g = g.takeWhile isFlag ++ c :: t := by rw [← hrest, List.takeWhile_append_dropWhile]
  generalize g.takeWhile isFlag = flags at hflags hg'
  subst hg'
  have hfirst (rest : Text) : read? ('(' :: '?' :: (flags ++ c :: t ++ rest)) =
      if c = ')' ∧ flags ≠ [] then some (.directive, t ++ rest) else none := by
    rw [hread, List.append_assoc, List.cons_append, readDirective?_of_flags hflags hc]
  by_cases hdirective : c = ')' ∧ flags ≠ []
  · have hsplit (rest : Text) : '(' :: '?' :: (flags ++ c :: t ++ rest) =
        '(' :: '?' :: (flags ++ [c]) ++ (t ++ rest) := by simp
    have hmark (rest : Text) : read? ('(' :: '?' :: (flags ++ [c]) ++ (t ++ rest)) =
        some (.directive, t ++ rest) := by
      rw [← hsplit, hfirst, if_pos hdirective]
    have hrest : StandsAlone t := by
      obtain ⟨rfl, -⟩ := hdirective
      exact (hg.of_flags hflags).tail fun _ => rfl
    have hall := (standsAlone_append_iff (List.cons_ne_nil _ _) hmark).mpr hrest
    rwa [← List.append_nil t, ← hsplit, List.append_nil] at hall
  · refine standsAlone_of_read?_eq_none (List.cons_ne_nil _ _) fun rest => ?_
    exact (hfirst rest).trans (if_neg hdirective)

lemma read?_queried {t : Text} (h : GroupKind.read? ('?' :: t) = none) :
    read? ('(' :: '?' :: t) = readDirective? ('?' :: t) := by
  have hother : readOther? ('(' :: '?' :: t) = readDirective? ('?' :: t) := by rw [readOther?, h]
  exact hother

/-- What a capture opens whose text begins with a question mark is said by this text. -/
lemma standsAlone_queried (hg : StandsAlone g) (hclosed : ')' ∈ g) :
    StandsAlone ('(' :: '?' :: g) := by
  cases g with
  | nil => simp at hclosed
  | cons c g =>
    by_cases hopening : c ∈ [':', '>', '=', '!']
    · have hread : (∀ t, read? (c :: t) = some (.sign, t)) ∧
          ∀ t, read? ('(' :: '?' :: c :: t) = some (.opening, t) := by
        simp only [List.mem_cons, List.not_mem_nil, or_false] at hopening
        rcases hopening with rfl | rfl | rfl | rfl <;> exact ⟨fun _ => rfl, fun _ => rfl⟩
      have hmark (rest : Text) :
          read? (['(', '?', c] ++ (g ++ rest)) = some (.opening, g ++ rest) :=
        hread.2 (g ++ rest)
      exact (standsAlone_append_iff (List.cons_ne_nil _ _) hmark).mpr (hg.tail hread.1)
    simp only [List.mem_cons, List.not_mem_nil, or_false, not_or] at hopening
    by_cases hbehind : c = '<'
    · subst hbehind
      obtain ⟨d, g, rfl⟩ := List.exists_cons_of_ne_nil (List.ne_nil_of_mem
        ((List.mem_cons.mp hclosed).resolve_left (by decide)))
      by_cases hside : d = '=' ∨ d = '!'
      · have hread : (∀ t, read? (d :: t) = some (.sign, t)) ∧
            ∀ t, read? ('(' :: '?' :: '<' :: d :: t) = some (.opening, t) := by
          rcases hside with rfl | rfl <;> exact ⟨fun _ => rfl, fun _ => rfl⟩
        have hrest : StandsAlone g := (hg.tail fun _ => rfl).tail hread.1
        have hmark (rest : Text) :
            read? (['(', '?', '<', d] ++ (g ++ rest)) = some (.opening, g ++ rest) :=
          hread.2 (g ++ rest)
        exact (standsAlone_append_iff (List.cons_ne_nil _ _) hmark).mpr hrest
      · obtain ⟨hahead, hnot⟩ := not_or.mp hside
        refine standsAlone_flags hg hclosed fun rest => read?_queried ?_
        simp [GroupKind.read?, hahead, hnot]
    · refine standsAlone_flags hg hclosed fun rest => read?_queried ?_
      simp [GroupKind.read?, hopening, hbehind]

/-- A capture is cut by its own text, whatever this begins with. -/
lemma StandsAlone.capture (hg : StandsAlone g) : StandsAlone (Element.wrap ['('] g) := by
  by_cases hqueried : Unqueried g
  · refine hg.wrap (List.cons_ne_nil _ _) fun rest => ?_
    have hunqueried : (g ++ ')' :: rest).head? ≠ some '?' :=
      unqueried_append hqueried (unqueried_cons rest (by decide))
    have hread : readOther? ('(' :: (g ++ ')' :: rest)) = some (.opening, g ++ ')' :: rest) := by
      rw [readOther?, GroupKind.read?_capture hunqueried]
    exact hread
  · obtain ⟨t, rfl⟩ := List.head?_eq_some_iff.mp (not_not.mp hqueried)
    have hquery : ∀ t, read? ('?' :: t) = some (.quantifier, t) := fun _ => rfl
    exact standsAlone_queried ((hg.tail hquery).append standsAlone_closing) (by simp)

/-! ### Where two texts meet -/

lemma beginsWithDigit_gather (ks : List Token) :
    BeginsWithDigit (gather ks) ↔ BeginsWithDigit ks := by
  cases ks with
  | nil => rfl
  | cons k ks =>
    by_cases hk : k.kind = .reference
    · obtain ⟨kind, number⟩ := k
      obtain rfl : kind = .reference := hk
      obtain ⟨ls, more, hfold⟩ := exists_foldl_push_reference number ks
      have hgather : gather (⟨.reference, number⟩ :: ks) =
          ⟨.reference, number ++ more⟩ :: ls.reverse := by
        have hfirst : gather (⟨.reference, number⟩ :: ks) =
            (ks.foldl push [⟨.reference, number⟩]).reverse := rfl
        rw [hfirst, hfold, List.reverse_append]
        rfl
      simp [BeginsWithDigit, hgather, isDigit]
    · rw [gather_cons hk]
      simp [BeginsWithDigit]

lemma gather_of_kind_ne (h : ∀ k ∈ ks, k.kind ≠ .reference) : gather ks = ks := by
  induction ks with
  | nil => rfl
  | cons k ks ih =>
    obtain ⟨hk, hks⟩ := List.forall_mem_cons.mp h
    rw [gather_cons hk, ih hks]

/-- A text ends in a reference and the next one begins with a decimal digit. -/
def Meet (g h : Text) : Prop :=
  ∃ ks ls, tokens? g = some ks ∧ tokens? h = some ls ∧ EndsInReference ks ∧ BeginsWithDigit ls

/-- Two texts in a row have the tokens of both unless they meet. -/
lemma StandsAlone.tokens?_append_iff (hg : StandsAlone g) (h : Text) :
    tokens? (g ++ h) = (tokens? g).bind (fun ks => (tokens? h).map (ks ++ ·)) ↔ ¬Meet g h := by
  unfold Meet tokens?
  rw [hg]
  cases readEach? g with
  | none => simp
  | some ks =>
    cases readEach? h with
    | none => simp
    | some ls =>
      simp only [Option.bind_some, Option.map_some, Option.some.injEq]
      constructor
      · rintro happend ⟨_, _, rfl, rfl, hends, hbegins⟩
        exact gather_append_ne hends ((beginsWithDigit_gather ls).mp hbegins) _ happend
      · intro hmeet
        refine gather_append fun ⟨hends, hbegins⟩ => hmeet ?_
        exact ⟨_, _, rfl, rfl, hends, (beginsWithDigit_gather ls).mpr hbegins⟩

end Token

namespace Element

open Token

variable {a b e : Element} {es : List Element} {g : Text}

lemma IsCut.standsAlone (h : IsCut e) : StandsAlone e.grammar := by
  obtain ⟨ks, hks⟩ := h
  exact hks.splits.standsAlone

lemma standsAlone_unit (hg : StandsAlone g) (weight : ℕ) : StandsAlone (unit weight g) := by
  unfold unit
  split_ifs
  · exact hg.wrap (by decide) fun _ => rfl
  · exact hg

lemma standsAlone_grammars (h : ∀ e ∈ es, StandsAlone e.grammar) : StandsAlone (grammars es) := by
  induction es with
  | nil => exact splits_nil.standsAlone
  | cons e es ih =>
    obtain ⟨he, hes⟩ := List.forall_mem_cons.mp h
    exact he.append (ih hes)

lemma standsAlone_joinAlternatives (h : ∀ e ∈ es, StandsAlone e.grammar) :
    StandsAlone (joinAlternatives (units es)) := by
  induction es with
  | nil => exact splits_nil.standsAlone
  | cons e es ih =>
    obtain ⟨he, hes⟩ := List.forall_mem_cons.mp h
    have hunit := standsAlone_unit he e.weight
    cases es with
    | nil => exact hunit
    | cons f es =>
      have hbar : Splits ['|'] [⟨.bar, ['|']⟩] :=
        splits_token (List.cons_ne_nil _ _) (fun _ => rfl) (by decide) (by decide)
      exact hunit.append (hbar.standsAlone.append (ih hes))

lemma standsAlone_either (h : ∀ e ∈ es, StandsAlone e.grammar) :
    StandsAlone (either es).grammar := by
  have hjoined := standsAlone_joinAlternatives h
  match es with
  | [] => exact hjoined
  | [e] => exact hjoined
  | e :: f :: es =>
    have hwrapped : StandsAlone (wrap "(?:".toList (joinAlternatives (units (e :: f :: es)))) :=
      hjoined.wrap (by decide) fun _ => rfl
    exact hwrapped

lemma standsAlone_group (h : StandsAlone e.grammar) (kind : GroupKind) :
    StandsAlone (kind.element e).grammar := by
  cases kind with
  | capture => exact h.capture
  | _ => exact h.wrap (by decide) fun _ => rfl

lemma wellNamed_of_hasName {s : SpecialChar} (h : s.hasName = false) : s.WellNamed := by
  cases s with
  | control name | named name | withProperty name | withoutProperty name => cases h
  | _ => trivial

lemma Scannable.standsAlone (h : Scannable e) : StandsAlone e.grammar := by
  induction h with
  | leaf h => exact (isCut_leaf h).standsAlone
  | text t => exact (isCut_text t).standsAlone
  | charIn h => exact (isCut_charIn h).standsAlone
  | charNotIn h => exact (isCut_charNotIn h).standsAlone
  | special h => exact (splits_special (wellNamed_of_hasName h)).standsAlone
  | backReference id => exact (isCut_backReference id).standsAlone
  | setOptions o => exact (isCut_options o).1.standsAlone
  | resetOptions o => exact (isCut_options o).2.standsAlone
  | @repeated body _ times ih =>
    exact (standsAlone_unit ih body.weight).append (splits_ofRepeat times).standsAlone
  | either _ ih => exact standsAlone_either ih
  | sequence _ ih => exact standsAlone_grammars ih
  | group _ kind ih => exact standsAlone_group ih kind

/-! ### Elements that are cut -/

lemma legible_each (h : ∀ e ∈ es, ∀ path,
    (∀ body ∈ captured (nodesAt e path), Unqueried body.grammar) → Legible e) (path : List ℕ)
    (index : ℕ) (hcaptured : ∀ body ∈ captured (insideEach es path index), Unqueried body.grammar) :
    ∀ e ∈ es, Legible e := by
  induction es generalizing index with
  | nil => simp
  | cons e es ih =>
    obtain ⟨he, hes⟩ := List.forall_mem_cons.mp h
    have hsplit : captured (insideEach (e :: es) path index) =
        captured (nodesAt e (path ++ [index])) ++ captured (insideEach es path (index + 1)) :=
      captured_append _ _
    rw [hsplit] at hcaptured
    obtain ⟨hfirst, hrest⟩ := List.forall_mem_append.mp hcaptured
    exact List.forall_mem_cons.mpr ⟨he (path ++ [index]) hfirst, ih hes (index + 1) hrest⟩

/-- The same element with captures that do not begin with a question mark. -/
lemma Scannable.legible (h : Scannable e) (path : List ℕ)
    (hcaptured : ∀ body ∈ captured (nodesAt e path), Unqueried body.grammar) : Legible e := by
  induction h generalizing path with
  | leaf h => exact .leaf h
  | text t => exact .text t
  | charIn h => exact .charIn h
  | charNotIn h => exact .charNotIn h
  | special h => exact .special (wellNamed_of_hasName h)
  | backReference id => exact .backReference id
  | setOptions o => exact .setOptions o
  | resetOptions o => exact .resetOptions o
  | repeated _ times ih => exact .repeated (ih (Outline.onlyChild path) hcaptured) times
  | either _ ih => exact .either (legible_each ih path 1 hcaptured)
  | sequence _ ih => exact .sequence (legible_each ih path 1 hcaptured)
  | group _ kind ih =>
    cases kind with
    | capture =>
      obtain ⟨hself, hbody⟩ := List.forall_mem_cons.mp hcaptured
      exact .group (ih (Outline.onlyChild path) hbody) .capture fun _ => hself
    | _ => exact .group (ih (Outline.onlyChild path) hcaptured) _ (by simp)

lemma Legible.exists_tokens (h : Legible e) : ∃ ks, tokens? e.grammar = some ks := by
  obtain ⟨ks, hks⟩ := h.isCut
  exact ⟨gather ks, hks.splits.tokens?_eq⟩

lemma grammar_pair (a b : Element) : (sequence [a, b]).grammar = a.grammar ++ b.grammar := by
  have hgrammars : (sequence [a, b]).grammar = a.grammar ++ (b.grammar ++ []) := rfl
  rw [hgrammars, List.append_nil]

lemma isDigit_escapeEach (c : Char) : (⟨.sign, escapeEach [c]⟩ : Token).isDigit = c.isDigit := by
  cases hc : isSpecialChar c with
  | true =>
    have hdigit : c.isDigit = false := by
      by_contra hdigit
      rw [not_special_of_isDigit (eq_true_of_ne_false hdigit)] at hc
      cases hc
    rw [Sign.escapeEach_cons_of_special hc, hdigit]
    rfl
  | false =>
    rw [Sign.escapeEach_cons_of_not_special hc]
    rfl

/-- A reference takes the digits at the beginning of a text behind it. -/
lemma tokens?_backReference_text (id : ℕ) (t : Text) :
    tokens? (sequence [backReference id, text t]).grammar =
      some (⟨.reference, '\\' :: Text.decimal (id + 1) ++ t.takeWhile Char.isDigit⟩ ::
        (t.dropWhile Char.isDigit).map fun c => ⟨.sign, escapeEach [c]⟩) := by
  obtain ⟨d, ds, hdecimal, hds, hreference⟩ := exists_splits_backReference id
  have hsplits := hreference.append (cut_escapeEach t).splits
  rw [grammar_pair, grammar_text, hsplits.tokens?_eq]
  have hdigits : ∀ c ∈ t.takeWhile Char.isDigit, c.isDigit = true := fun c hc =>
    List.mem_takeWhile_imp hc
  have hfront : (t.takeWhile Char.isDigit).map (fun c => (⟨.sign, escapeEach [c]⟩ : Token)) =
      (t.takeWhile Char.isDigit).map fun c => ⟨.sign, [c]⟩ := by
    refine List.map_congr_left fun c hc => ?_
    rw [Sign.escapeEach_cons_of_not_special (not_special_of_isDigit (hdigits c hc))]
    rfl
  have htext : t.map (fun c => (⟨.sign, escapeEach [c]⟩ : Token)) =
      ((t.takeWhile Char.isDigit).map fun c => ⟨.sign, [c]⟩) ++
        (t.dropWhile Char.isDigit).map fun c => ⟨.sign, escapeEach [c]⟩ := by
    rw [← hfront, ← List.map_append, List.takeWhile_append_dropWhile]
  have hrest :
      ¬BeginsWithDigit ((t.dropWhile Char.isDigit).map fun c => ⟨.sign, escapeEach [c]⟩) := by
    rintro ⟨k, hk, hdigit⟩
    rw [List.head?_map] at hk
    obtain ⟨c, hc, rfl⟩ := Option.map_eq_some_iff.mp hk
    have hnot := List.head?_dropWhile_not Char.isDigit t
    rw [hc] at hnot
    exact Bool.false_ne_true (hnot.symm.trans ((isDigit_escapeEach c).symm.trans hdigit))
  have hall : ∀ c ∈ ds ++ t.takeWhile Char.isDigit, c.isDigit = true :=
    List.forall_mem_append.mpr ⟨hds, hdigits⟩
  rw [htext, ← List.append_assoc, List.cons_append, ← List.map_append,
    gather_append fun hmeet => hrest hmeet.2, gather_reference hall,
    gather_of_kind_ne (by simp), hdecimal]
  rfl

/-- The tokens of two elements in a row are those of the one and then those of the other, unless the
one ends in a reference and the other begins with a digit. An element has tokens if its captures do
not begin with a question mark. A reference takes the digits that a text behind it begins with. -/
theorem tokens?_sequence_iff (ha : Scannable a) (b : Element) :
    (tokens? (sequence [a, b]).grammar =
        (tokens? a.grammar).bind (fun ks => (tokens? b.grammar).map (ks ++ ·)) ↔
      ¬Meet a.grammar b.grammar) ∧
    ((∀ body ∈ captured a.nodes, Unqueried body.grammar) → ∃ ks, tokens? a.grammar = some ks) ∧
    ∀ id t, tokens? (sequence [backReference id, text t]).grammar =
      some (⟨.reference, '\\' :: Text.decimal (id + 1) ++ t.takeWhile Char.isDigit⟩ ::
        (t.dropWhile Char.isDigit).map fun c => ⟨.sign, escapeEach [c]⟩) := by
  refine ⟨?_, fun hcaptured => (ha.legible [] hcaptured).exists_tokens, tokens?_backReference_text⟩
  rw [grammar_pair]
  exact ha.standsAlone.tokens?_append_iff b.grammar

/-- In `[\(\]](\1)2?` the group of the reference is closed in front of the digit. -/
theorem tokens?_sequence_iff_enclosed :
    let a := sequence [charIn ['(', ']'], capture (backReference 0)]
    let b := repeated (text ['2']) (.optional none)
    Scannable a ∧ (∀ body ∈ captured a.nodes, Unqueried body.grammar) ∧
      (sequence [a, b]).grammar = "[\\(\\]](\\1)2?".toList ∧
      tokens? (sequence [a, b]).grammar =
        (tokens? a.grammar).bind (fun ks => (tokens? b.grammar).map (ks ++ ·)) := by
  intro a b
  have ha : Scannable a := by
    refine .sequence fun c hc => ?_
    simp only [List.mem_cons, List.not_mem_nil, or_false] at hc
    rcases hc with rfl | rfl
    · exact .charIn (List.cons_ne_nil _ _)
    · exact .group (.backReference 0) .capture
  have hcaptured : ∀ body ∈ captured a.nodes, Unqueried body.grammar := by
    have hbodies : captured a.nodes = [backReference 0] := rfl
    rw [hbodies, List.forall_mem_singleton]
    exact unqueried_cons _ (by decide)
  have hgrammar : a.grammar = "[\\(\\]](\\1)".toList := by decide +kernel
  have htokens : tokens? a.grammar = some [⟨.sign, "[\\(\\]]".toList⟩, ⟨.opening, ['(']⟩,
      ⟨.reference, "\\1".toList⟩, ⟨.closing, [')']⟩] := by rw [hgrammar]; cbv
  refine ⟨ha, hcaptured, by decide +kernel, (tokens?_sequence_iff ha b).1.mpr ?_⟩
  rintro ⟨ks, -, hks, -, ⟨init, number, hends⟩, -⟩
  obtain rfl := Option.some.inj (htokens.symm.trans hks)
  have hlast := congrArg List.getLast? hends
  simp at hlast

/-- Behind a reference to the first capture the text `1` makes it one to capture 11, which is not
there, so the expression is rejected and `aa1` has no match. -/
theorem tokens?_sequence_iff_reference :
    let b := text ['1']
    Scannable (backReference 0) ∧ Scannable b ∧
      tokens? (backReference 0).grammar = some [⟨.reference, "\\1".toList⟩] ∧
      tokens? b.grammar = some [⟨.sign, ['1']⟩] ∧
      tokens? (sequence [backReference 0, b]).grammar = some [⟨.reference, "\\11".toList⟩] ∧
      Regex.compile? (sequence [capture (text ['a']), backReference 0, b]).grammar (.ofCase true) =
        none := by
  intro b
  have hreference : (backReference 0).grammar = "\\1".toList := by decide +kernel
  have htext : b.grammar = ['1'] := by decide +kernel
  have hboth : (sequence [backReference 0, b]).grammar = "\\11".toList := by decide +kernel
  rw [hreference, htext, hboth]
  exact ⟨.backReference 0, .text _, by cbv, by cbv, by cbv, by decide +kernel⟩

end Element

end PatternAlgebra
