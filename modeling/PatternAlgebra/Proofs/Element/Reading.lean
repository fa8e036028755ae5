import PatternAlgebra.Proofs.Element.Normal
import PatternAlgebra.Proofs.Element.Signs

/-! Grammars read back. The grammar of an element is read as items in a row, whatever stands around
it; if its weight is at most one, it is a single item to which a quantifier can be applied, and what
is heavier gets a group. So a quantifier applies to all of the element that is repeated and to
nothing else, and the tree that is read has the normal form of the one that was written. -/
namespace PatternAlgebra

namespace GroupKind

/-- What opens a group. -/
def mark : GroupKind → Text
  | grouping => "(?:".toList
  | capture => ['(']
  | atomic => "(?>".toList
  | lookAhead => "(?=".toList
  | notAhead => "(?!".toList
  | lookBehind => "(?<=".toList
  | notBehind => "(?<!".toList

lemma read?_capture {t : Text} (h : t.head? ≠ some '?') : read? t = some (capture, t) := by
  unfold read?
  split <;> simp_all

lemma read?_mark (kind : GroupKind) {t : Text} (h : Unmarked t) :
    Sign.read? (kind.mark ++ t) = some (.opening kind, t) := by
  cases kind with
  | capture =>
    rw [mark, List.singleton_append,
      Sign.read?_eq_readOther? t (by decide) (by decide) (by decide) (by decide), Sign.readOther?,
      read?_capture h.2]
    rfl
  | _ => rfl

end GroupKind

namespace GrammarReader

/-- Takes items in a row. -/
def pushAll (r : GrammarReader) (xs : List Element) : GrammarReader :=
  { r with inner := { r.inner with items := xs.reverse ++ r.inner.items } }

lemma pushAll_append (r : GrammarReader) (xs ys : List Element) :
    (r.pushAll xs).pushAll ys = r.pushAll (xs ++ ys) := by
  simp [pushAll]

lemma readAll?_of_sign {g rest : Text} {sign : Sign} (hg : g ≠ [])
    (h : Sign.read? (g ++ rest) = some (sign, rest)) (r : GrammarReader) :
    r.readAll? (g ++ rest) = (r.read? sign).bind fun r => r.readAll? rest := by
  have hne : (g ++ rest).isEmpty = false := by simp [hg]
  have hlt : rest.length < (g ++ rest).length := by
    have hpos := List.length_pos_iff.mpr hg
    rw [List.length_append]
    omega
  rw [readAll?, hne, h]
  simp only [Bool.false_eq_true, if_false, hlt, if_true]

lemma readAll?_nil (r : GrammarReader) : r.readAll? [] = some r := by
  rw [readAll?]
  rfl

/-- A text is read as items in a row, wherever it stands in front of what is no mark. -/
def Reads (g : Text) (xs : List Element) : Prop :=
  ∀ (r : GrammarReader) (rest : Text), Unmarked rest →
    r.readAll? (g ++ rest) = (r.pushAll xs).readAll? rest

/-- A text is read as a single item, whatever follows, and is no repetition. -/
structure Takes (g : Text) (x : Element) : Prop where
  readAll? : ∀ (r : GrammarReader) (rest : Text),
    r.readAll? (g ++ rest) = (r.pushAll [x]).readAll? rest
  not_repeated : ∀ body times, x ≠ .repeated body times

/-- A text fills a group, which is then the element `y`. -/
def Fills (g : Text) (y : Element) : Prop :=
  ∀ (outer : List (GroupKind × Branches)) (rest : Text), ∃ inner : Branches,
    GrammarReader.readAll? ⟨{}, outer⟩ (g ++ ')' :: rest) =
        GrammarReader.readAll? ⟨inner, outer⟩ (')' :: rest) ∧
      inner.element = y

variable {g h : Text} {x y : Element} {xs ys : List Element}

lemma Takes.reads (hx : Takes g x) : Reads g [x] := fun r rest _ => hx.readAll? r rest

lemma reads_nil : Reads [] [] := fun _ _ _ => rfl

lemma Reads.append (hx : Reads g xs) (hy : Reads h ys)
    (hunmarked : ∀ t, Unmarked t → Unmarked (h ++ t)) :
    Reads (g ++ h) (xs ++ ys) := by
  intro r rest hrest
  rw [List.append_assoc, hx r _ (hunmarked rest hrest), hy _ rest hrest, pushAll_append]

/-- A sign that is an item. -/
lemma takes_of_sign (hg : g ≠ []) (hsign : ∀ rest, Sign.read? (g ++ rest) = some (.item x, rest))
    (hx : ∀ body times, x ≠ .repeated body times) : Takes g x where
  readAll? r rest := readAll?_of_sign hg (hsign rest) r
  not_repeated := hx

lemma quantify?_push (b : Branches) (times : Repeat) (hx : ∀ body times, x ≠ .repeated body times) :
    (b.push x).quantify? times = some (b.push (.repeated x times)) := by
  unfold Branches.quantify?
  split
  · contradiction
  · rename_i body times' items heq
    exact absurd (List.cons.inj heq).1 (hx body times')
  · rename_i e items _ heq
    obtain ⟨rfl, rfl⟩ := List.cons.inj heq
    rfl

lemma grammar_ne_nil (times : Repeat) : times.grammar ≠ [] := by
  cases times <;> simp [Repeat.grammar, Repeat.core, Repeat.braces]

/-- A quantifier applies to the item in front of it. -/
lemma Takes.reads_repeated (hx : Takes g x) (times : Repeat) :
    Reads (g ++ times.grammar) [.repeated x times] := by
  intro r rest hrest
  have hquantified : (r.pushAll [x]).read? (.quantifier times) =
      some (r.pushAll [.repeated x times]) :=
    congrArg (Option.map _) (quantify?_push r.inner times hx.not_repeated)
  have hsign : Sign.read? (times.grammar ++ rest) = some (.quantifier times, rest) := by
    rw [Sign.read?, Repeat.read?_grammar times hrest]
  rw [List.append_assoc, hx.readAll?, readAll?_of_sign (grammar_ne_nil times) hsign, hquantified]
  rfl

lemma Reads.fills (hx : Reads g xs) : Fills g (.sequence xs) := by
  intro outer rest
  refine ⟨{ items := xs.reverse }, ?_, ?_⟩
  · rw [hx _ _ (unmarked_cons rest (by decide) (by decide))]
    simp [pushAll]
  · simp [Branches.element, Branches.current]

/-- What fills a group is one item together with the parentheses around it. -/
lemma Fills.takes (hy : Fills g y) (hunmarked : ∀ t, Unmarked (g ++ t)) (kind : GroupKind) :
    Takes (Element.wrap kind.mark g) (kind.element y) where
  readAll? r rest := by
    obtain ⟨inner, hinner, rfl⟩ := hy ((kind, r.inner) :: r.outer) rest
    have hmark : kind.mark ≠ [] := by cases kind <;> simp [GroupKind.mark]
    have hopening := GroupKind.read?_mark kind (hunmarked (')' :: rest))
    have hclosing : Sign.read? ([')'] ++ rest) = some (.closing, rest) := rfl
    have hwrap : Element.wrap kind.mark g ++ rest = kind.mark ++ (g ++ ')' :: rest) := by
      simp [Element.wrap]
    rw [hwrap, readAll?_of_sign hmark hopening]
    exact hinner.trans (readAll?_of_sign (List.cons_ne_nil _ _) hclosing _)
  not_repeated := by cases kind <;> simp [GroupKind.element]

/-- Alternatives that are single items, between bars. -/
lemma readAll?_joinAlternatives (hx : Takes g x) {gs : List Text} (hxs : List.Forall₂ Takes gs xs)
    (r : GrammarReader) (hr : r.inner.items = []) (rest : Text) :
    ∃ inner : Branches,
      r.readAll? (Element.joinAlternatives (g :: gs) ++ ')' :: rest) =
          GrammarReader.readAll? ⟨inner, r.outer⟩ (')' :: rest) ∧
        inner.current :: inner.alternatives =
          ((x :: xs).map fun x => Element.sequence [x]).reverse ++ r.inner.alternatives := by
  induction hxs generalizing g x r with
  | nil =>
    refine ⟨r.inner.push x, hx.readAll? r _, ?_⟩
    simp [Branches.current, Branches.push, hr]
  | @cons g' x' gs xs hx' hxs ih =>
    have hbar : Sign.read? (['|'] ++ (Element.joinAlternatives (g' :: gs) ++ ')' :: rest)) =
        some (.bar, Element.joinAlternatives (g' :: gs) ++ ')' :: rest) := rfl
    have hjoin : Element.joinAlternatives (g :: g' :: gs) ++ ')' :: rest =
        g ++ (['|'] ++ (Element.joinAlternatives (g' :: gs) ++ ')' :: rest)) := by
      simp [Element.joinAlternatives]
    obtain ⟨inner, hread, hinner⟩ :=
      ih hx' ⟨{ alternatives := (r.inner.push x).current :: r.inner.alternatives }, r.outer⟩ rfl
    refine ⟨inner, ?_, ?_⟩
    · rw [hjoin, hx.readAll?, readAll?_of_sign (List.cons_ne_nil _ _) hbar]
      exact hread
    · rw [hinner]
      simp [Branches.current, Branches.push, hr]

/-- More than one alternative makes a group of alternatives. -/
lemma element_of_alternatives (b : Branches) (hne : b.alternatives ≠ []) :
    b.element = .either (b.current :: b.alternatives).reverse := by
  unfold Branches.element
  split
  · contradiction
  · rfl

lemma fills_joinAlternatives (hx : Takes g x) (hy : Takes h y) {gs : List Text}
    (hxs : List.Forall₂ Takes gs xs) :
    Fills (Element.joinAlternatives (g :: h :: gs))
      (.either ((x :: y :: xs).map fun x => Element.sequence [x])) := by
  intro outer rest
  obtain ⟨inner, hread, hinner⟩ :=
    readAll?_joinAlternatives hx (.cons hy hxs) ⟨{}, outer⟩ rfl rest
  have hne : inner.alternatives ≠ [] := by
    intro hnil
    have hlength := congrArg List.length hinner
    simp [hnil] at hlength
  refine ⟨inner, hread, ?_⟩
  rw [element_of_alternatives inner hne, hinner, List.append_nil, List.reverse_reverse]

end GrammarReader

open GrammarReader

namespace Element

/-- The elements with a grammar of their own, without parts. -/
def isLeaf : Element → Bool
  | any | space | notSpace | digit | notDigit | word | notWord | newLine | quote | apostrophe
  | start | stop | firstInInput | lastInInput | boundary | notBoundary | endOfPreviousMatch
  | skip | spaces | words => true
  | _ => false

/-- The elements whose grammar has no other notation than groups, alternatives, quantifiers and
sets, and no part that is empty. -/
inductive Readable : Element → Prop
  | leaf {e : Element} (h : e.isLeaf = true) : Readable e
  | text {t : Text} (h : t ≠ []) : Readable (.text t)
  | charIn {cs : Text} (h : cs ≠ []) : Readable (.charIn cs)
  | charNotIn {cs : Text} (h : cs ≠ []) : Readable (.charNotIn cs)
  | repeated {body : Element} (h : Readable body) (times : Repeat) : Readable (.repeated body times)
  | either {es : List Element} (hne : es ≠ []) (h : ∀ e ∈ es, Readable e) : Readable (.either es)
  | sequence {es : List Element} (hne : es ≠ []) (h : ∀ e ∈ es, Readable e) :
      Readable (.sequence es)
  | grouping {body : Element} (h : Readable body) : Readable (.grouping body)
  | capture {body : Element} (h : Readable body) : Readable (.capture body)
  | atomic {body : Element} (h : Readable body) : Readable (.atomic body)
  | lookAhead {body : Element} (h : Readable body) : Readable (.lookAhead body)
  | notAhead {body : Element} (h : Readable body) : Readable (.notAhead body)
  | lookBehind {body : Element} (h : Readable body) : Readable (.lookBehind body)
  | notBehind {body : Element} (h : Readable body) : Readable (.notBehind body)

/-- How the grammar of an element is read: as items that make up its pieces, and as a single one if
no group is needed around it. -/
structure ReadsAs (e : Element) (xs : List Element) : Prop where
  reads : Reads e.grammar xs
  pieces_eq : piecesOfEach xs = e.pieces
  takes : e.weight ≤ 1 → ∃ x, xs = [x] ∧ Takes e.grammar x
  unmarked : ∀ t, Unmarked (e.grammar ++ t)
  weight_pos : 1 ≤ e.weight

variable {e : Element} {xs : List Element}

/-- An element that is read as a single item. -/
lemma ReadsAs.of_takes {x : Element} (hx : Takes e.grammar x) (hpieces : x.pieces = e.pieces)
    (hunmarked : ∀ t, Unmarked (e.grammar ++ t)) (hweight : 1 ≤ e.weight) : ReadsAs e [x] where
  reads := hx.reads
  pieces_eq := by rw [piecesOfEach_singleton, hpieces]
  takes _ := ⟨x, rfl, hx⟩
  unmarked := hunmarked
  weight_pos := hweight

/-- Where an operator follows, an element is read as a single item. -/
lemma ReadsAs.unit (h : ReadsAs e xs) :
    ∃ x, Takes (unit e.weight e.grammar) x ∧ x.pieces = e.pieces := by
  unfold Element.unit
  split_ifs with hweight
  · refine ⟨.grouping (.sequence xs), h.reads.fills.takes h.unmarked .grouping, ?_⟩
    rw [pieces, pieces, h.pieces_eq]
  · obtain ⟨x, rfl, hx⟩ := h.takes (not_lt.mp hweight)
    exact ⟨x, hx, by rw [← h.pieces_eq, piecesOfEach_singleton]⟩

lemma ReadsAs.unmarked_unit (h : ReadsAs e xs) (t : Text) :
    Unmarked (Element.unit e.weight e.grammar ++ t) := by
  unfold Element.unit
  split_ifs
  · exact unmarked_cons _ (by decide) (by decide)
  · exact h.unmarked t

/-- An element with a sign of its own. -/
lemma ReadsAs.of_sign {x : Element} {c : Char} {g : Text} (hg : e.grammar = c :: g)
    (hsign : ∀ rest, Sign.read? (c :: g ++ rest) = some (.item x, rest))
    (hx : ∀ body times, x ≠ .repeated body times) (hpieces : x.pieces = e.pieces)
    (hplus : c ≠ '+') (hquery : c ≠ '?') (hweight : 1 ≤ e.weight) : ReadsAs e [x] := by
  refine .of_takes ?_ hpieces ?_ hweight
  · rw [hg]
    exact takes_of_sign (List.cons_ne_nil _ _) hsign hx
  · rw [hg]
    exact fun t => unmarked_cons _ hplus hquery

/-- A sign with a quantifier behind it is too heavy to be a single item. -/
lemma ReadsAs.of_repeated {g : Text} {x : Element} (hx : Takes g x) (times : Repeat)
    (hgrammar : e.grammar = g ++ times.grammar)
    (hpieces : e.pieces = [.repeated (.sequence x.pieces) times])
    (hunmarked : ∀ t, Unmarked (g ++ t)) (hweight : e.weight = 2) :
    ReadsAs e [.repeated x times] where
  reads := by
    rw [hgrammar]
    exact hx.reads_repeated times
  pieces_eq := by rw [piecesOfEach_singleton, pieces, hpieces]
  takes h := by omega
  unmarked t := by
    rw [hgrammar, List.append_assoc]
    exact hunmarked _
  weight_pos := by omega

/-- A group of its own kind is a single item. -/
lemma ReadsAs.of_fills {g : Text} {y : Element} (hy : Fills g y) (kind : GroupKind)
    (hunmarked : ∀ t, Unmarked (g ++ t)) (hgrammar : e.grammar = Element.wrap kind.mark g)
    (hpieces : (kind.element y).pieces = e.pieces) (hweight : e.weight = 1) :
    ReadsAs e [kind.element y] := by
  refine .of_takes ?_ hpieces ?_ hweight.ge
  · rw [hgrammar]
    exact hy.takes hunmarked kind
  · rw [hgrammar]
    intro t
    cases kind <;> exact unmarked_cons _ (by decide) (by decide)

lemma takes_any : Takes ['.'] .any :=
  takes_of_sign (by decide) (fun _ => rfl) (by simp)

lemma takes_space : Takes "\\s".toList .space :=
  takes_of_sign (by decide) (fun _ => rfl) (by simp)

lemma takes_word : Takes "\\w".toList .word :=
  takes_of_sign (by decide) (fun _ => rfl) (by simp)

/-- A line break is a group of an optional carriage return and a line feed. -/
lemma reads_newLine :
    Reads "[\\r]?+[\\n]".toList
      [.repeated (.charIn ['\r']) (.optional (some .possessive)), .charIn ['\n']] := by
  have hcarriage : Takes "[\\r]".toList (.charIn ['\r']) :=
    takes_of_sign (by decide) (fun _ => rfl) (by simp)
  have hfeed : Takes "[\\n]".toList (.charIn ['\n']) :=
    takes_of_sign (by decide) (fun _ => rfl) (by simp)
  have happend : "[\\r]?+[\\n]".toList =
      "[\\r]".toList ++ (Repeat.optional (some .possessive)).grammar ++ "[\\n]".toList := by
    decide
  rw [happend]
  exact (hcarriage.reads_repeated (.optional (some .possessive))).append hfeed.reads
    fun t _ => unmarked_cons _ (by decide) (by decide)

lemma exists_readsAs_leaf (h : e.isLeaf = true) : ∃ xs, ReadsAs e xs := by
  cases e with
  | any | space | notSpace | digit | notDigit | word | notWord | quote | apostrophe | start | stop
  | firstInInput | lastInInput | boundary | notBoundary | endOfPreviousMatch =>
    exact ⟨_, .of_sign rfl (fun _ => rfl) (by simp) rfl (by decide) (by decide) (by decide)⟩
  | skip =>
    exact ⟨_, .of_repeated takes_any (.zeroOrMore none) rfl rfl
      (fun t => unmarked_cons _ (by decide) (by decide)) rfl⟩
  | spaces =>
    exact ⟨_, .of_repeated takes_space (.zeroOrMore none) rfl rfl
      (fun t => unmarked_cons _ (by decide) (by decide)) rfl⟩
  | words =>
    exact ⟨_, .of_repeated takes_word (.oneOrMore none) rfl rfl
      (fun t => unmarked_cons _ (by decide) (by decide)) rfl⟩
  | newLine =>
    exact ⟨_, .of_fills reads_newLine.fills .grouping
      (fun t => unmarked_cons _ (by decide) (by decide)) rfl rfl rfl⟩
  | _ => contradiction

lemma takes_escapeEach (c : Char) : Takes (escapeEach [c]) (.text [c]) := by
  have hne : escapeEach [c] ≠ [] := by
    obtain ⟨d, t, ht, -⟩ := Sign.exists_cons_escapeEach (List.cons_ne_nil c [])
    rw [ht]
    exact List.cons_ne_nil d t
  exact takes_of_sign hne (Sign.read?_escapeEach c) (by simp)

lemma reads_escapeEach (t : Text) : Reads (escapeEach t) (t.map fun c => .text [c]) := by
  induction t with
  | nil => exact reads_nil
  | cons c t ih =>
    rw [Sign.escapeEach_cons, List.map_cons]
    refine (takes_escapeEach c).reads.append ih fun rest hrest => ?_
    cases t with
    | nil => exact hrest
    | cons d t => exact Sign.unmarked_escapeEach (List.cons_ne_nil d t) rest

lemma grammar_text (t : Text) : grammar (.text t) = escapeEach t := escapePattern_eq_escapeEach t

lemma readsAs_text {t : Text} (h : t ≠ []) :
    ReadsAs (.text t) (t.map fun c => .text [c]) where
  reads := by
    rw [grammar_text]
    exact reads_escapeEach t
  pieces_eq := by rw [piecesOfEach_characters, pieces]
  takes hweight := by
    obtain ⟨c, t, rfl⟩ := List.exists_cons_of_ne_nil h
    obtain rfl : t = [] := List.length_eq_zero_iff.mp (by simpa [weight] using hweight)
    refine ⟨.text [c], rfl, ?_⟩
    rw [grammar_text]
    exact takes_escapeEach c
  unmarked := by
    rw [grammar_text]
    exact Sign.unmarked_escapeEach h
  weight_pos := by
    rw [weight]
    exact List.length_pos_iff.mpr h

lemma charInGrammar_eq (cs : Text) :
    charInGrammar cs =
      if cs.length = 1 then escapeEach cs else '[' :: (escapeEach cs ++ [']']) := by
  simp only [charInGrammar, escapePattern_eq_escapeEach, List.cons_append]

lemma exists_readsAs_charIn {cs : Text} (h : cs ≠ []) : ∃ xs, ReadsAs (.charIn cs) xs := by
  have hweight : weight (.charIn cs) = 1 := rfl
  by_cases hlength : cs.length = 1
  · obtain ⟨c, rfl⟩ := List.length_eq_one_iff.mp hlength
    have hgrammar : grammar (.charIn [c]) = escapeEach [c] := charInGrammar_eq [c]
    refine ⟨[.text [c]], .of_takes ?_ rfl ?_ hweight.ge⟩
    · rw [hgrammar]
      exact takes_escapeEach c
    · rw [hgrammar]
      exact Sign.unmarked_escapeEach h
  · have hgrammar : grammar (.charIn cs) = '[' :: (escapeEach cs ++ [']']) :=
      (charInGrammar_eq cs).trans (if_neg hlength)
    refine ⟨[.charIn cs], .of_sign hgrammar (fun rest => ?_) (by simp) rfl (by decide) (by decide)
      hweight.ge⟩
    simpa using Sign.read?_charIn h rest

lemma readsAs_charNotIn {cs : Text} (h : cs ≠ []) : ReadsAs (.charNotIn cs) [.charNotIn cs] := by
  have hweight : weight (.charNotIn cs) = 1 := rfl
  have hgrammar : grammar (.charNotIn cs) = '[' :: '^' :: (escapeEach cs ++ [']']) := by
    rw [← escapePattern_eq_escapeEach]
    rfl
  refine .of_sign hgrammar (fun rest => ?_) (by simp) rfl (by decide) (by decide) hweight.ge
  simpa using Sign.read?_charNotIn h rest

/-- A repetition is read as one of exactly the item or the group that its element makes. -/
lemma ReadsAs.repeated (h : ReadsAs e xs) (times : Repeat) :
    ∃ xs, ReadsAs (.repeated e times) xs := by
  obtain ⟨x, hx, hpieces⟩ := h.unit
  refine ⟨_, .of_repeated hx times rfl ?_ h.unmarked_unit rfl⟩
  rw [pieces, hpieces]

/-- A group, of whatever kind, holds all of its element. -/
lemma ReadsAs.group (h : ReadsAs e xs) (kind : GroupKind) :
    ∃ xs, ReadsAs (kind.element e) xs := by
  refine ⟨_, .of_fills h.reads.fills kind h.unmarked ?_ ?_ ?_⟩
  · cases kind <;> rfl
  · cases kind <;> simp only [GroupKind.element, pieces, h.pieces_eq]
  · cases kind <;> rfl

variable {es : List Element}

lemma exists_takes_units (h : ∀ e ∈ es, ∃ xs, ReadsAs e xs) :
    ∃ xs, List.Forall₂ Takes (units es) xs ∧
      rows (xs.map fun x => .sequence [x]) = rows es := by
  induction es with
  | nil => exact ⟨[], .nil, rfl⟩
  | cons e es ih =>
    obtain ⟨xs, hxs, hrows⟩ := ih fun e he => h e (List.mem_cons_of_mem _ he)
    obtain ⟨_, he⟩ := h e List.mem_cons_self
    obtain ⟨x, hx, hpieces⟩ := he.unit
    refine ⟨x :: xs, .cons hx hxs, ?_⟩
    rw [List.map_cons, rows, rows, hrows, pieces, piecesOfEach_singleton, hpieces]

lemma exists_readsAs_either (hne : es ≠ []) (h : ∀ e ∈ es, ∃ xs, ReadsAs e xs) :
    ∃ xs, ReadsAs (.either es) xs := by
  obtain ⟨e, es, rfl⟩ := List.exists_cons_of_ne_nil hne
  obtain ⟨_, he⟩ := h e List.mem_cons_self
  have hweight : weight (.either (e :: es)) = 1 := rfl
  cases es with
  | nil =>
    obtain ⟨x, hx, hpieces⟩ := he.unit
    refine ⟨[x], .of_takes hx ?_ he.unmarked_unit hweight.ge⟩
    rw [hpieces, pieces]
  | cons f es =>
    obtain ⟨xs, hxs, hrows⟩ := exists_takes_units h
    obtain _ | ⟨hx, hxs⟩ := hxs
    obtain _ | ⟨hy, hxs⟩ := hxs
    have hjoin : joinAlternatives (units (e :: f :: es)) =
        Element.unit e.weight e.grammar ++ '|' :: joinAlternatives (units (f :: es)) := rfl
    refine ⟨_, .of_fills (fills_joinAlternatives hx hy hxs) .grouping ?_ rfl ?_ hweight⟩
    · intro t
      change Unmarked (joinAlternatives (units (e :: f :: es)) ++ t)
      rw [hjoin, List.append_assoc]
      exact he.unmarked_unit _
    · rw [GroupKind.element, pieces, pieces, hrows]
      · rw [pieces]; simp
      · simp

lemma grammar_cons (e : Element) (es : List Element) :
    grammar (.sequence (e :: es)) = e.grammar ++ grammars es := rfl

lemma weights_pos (hne : es ≠ []) (h : ∀ e ∈ es, ∃ xs, ReadsAs e xs) : 1 ≤ weights es := by
  obtain ⟨e, es, rfl⟩ := List.exists_cons_of_ne_nil hne
  obtain ⟨_, he⟩ := h e List.mem_cons_self
  exact he.weight_pos.trans (Nat.le_add_right _ _)

lemma unmarked_grammars (h : ∀ e ∈ es, ∃ xs, ReadsAs e xs) {t : Text} (ht : Unmarked t) :
    Unmarked (grammars es ++ t) := by
  cases es with
  | nil => exact ht
  | cons e es =>
    obtain ⟨_, he⟩ := h e List.mem_cons_self
    change Unmarked (grammar (.sequence (e :: es)) ++ t)
    rw [grammar_cons, List.append_assoc]
    exact he.unmarked _

lemma exists_reads_grammars (h : ∀ e ∈ es, ∃ xs, ReadsAs e xs) :
    ∃ xs, Reads (grammars es) xs ∧ piecesOfEach xs = piecesOfEach es := by
  induction es with
  | nil => exact ⟨[], reads_nil, rfl⟩
  | cons e es ih =>
    have htail := fun e he => h e (List.mem_cons_of_mem _ he)
    obtain ⟨xs, hxs, hpieces⟩ := ih htail
    obtain ⟨ys, he⟩ := h e List.mem_cons_self
    refine ⟨ys ++ xs, he.reads.append hxs fun t ht => unmarked_grammars htail ht, ?_⟩
    rw [piecesOfEach_append, piecesOfEach, he.pieces_eq, hpieces]

/-- Items in a row. Each of them weighs at least one, so what needs no group is a single item. -/
lemma exists_readsAs_sequence (hne : es ≠ []) (h : ∀ e ∈ es, ∃ xs, ReadsAs e xs) :
    ∃ xs, ReadsAs (.sequence es) xs := by
  obtain ⟨e, es, rfl⟩ := List.exists_cons_of_ne_nil hne
  obtain ⟨ys, he⟩ := h e List.mem_cons_self
  have hunmarked (t : Text) : Unmarked (grammar (.sequence (e :: es)) ++ t) := by
    rw [grammar_cons, List.append_assoc]
    exact he.unmarked _
  have hweight : weight (.sequence (e :: es)) = e.weight + weights es := rfl
  cases es with
  | nil =>
    have hgrammar : grammar (.sequence [e]) = e.grammar := List.append_nil _
    refine ⟨ys, ?_, ?_, ?_, hunmarked, ?_⟩
    · rw [hgrammar]
      exact he.reads
    · rw [he.pieces_eq, pieces, piecesOfEach_singleton]
    · rw [hgrammar]
      exact he.takes
    · exact he.weight_pos
  | cons f es =>
    have hpos := weights_pos (List.cons_ne_nil f es) fun e he => h e (List.mem_cons_of_mem _ he)
    have hepos := he.weight_pos
    obtain ⟨xs, hxs, hpieces⟩ := exists_reads_grammars h
    exact ⟨xs, hxs, by rw [hpieces, pieces], by omega, hunmarked, by omega⟩

/-- By induction on the element: what each kind of element makes of the items of its parts. -/
lemma Readable.exists_readsAs (h : Readable e) : ∃ xs, ReadsAs e xs := by
  induction h with
  | leaf h => exact exists_readsAs_leaf h
  | text h => exact ⟨_, readsAs_text h⟩
  | charIn h => exact exists_readsAs_charIn h
  | charNotIn h => exact ⟨_, readsAs_charNotIn h⟩
  | repeated _ times ih => exact ih.elim fun _ hbody => hbody.repeated times
  | either hne _ ih => exact exists_readsAs_either hne ih
  | sequence hne _ ih => exact exists_readsAs_sequence hne ih
  | grouping _ ih => exact ih.elim fun _ hbody => hbody.group .grouping
  | capture _ ih => exact ih.elim fun _ hbody => hbody.group .capture
  | atomic _ ih => exact ih.elim fun _ hbody => hbody.group .atomic
  | lookAhead _ ih => exact ih.elim fun _ hbody => hbody.group .lookAhead
  | notAhead _ ih => exact ih.elim fun _ hbody => hbody.group .notAhead
  | lookBehind _ ih => exact ih.elim fun _ hbody => hbody.group .lookBehind
  | notBehind _ ih => exact ih.elim fun _ hbody => hbody.group .notBehind

/-- The grammar of an element reads back as the element itself, up to its normal form. In
particular a quantifier is read as one of all that is repeated and of nothing else. -/
theorem read?_grammar_eq_normal (h : Readable e) :
    (read? e.grammar).map normal = some e.normal := by
  obtain ⟨xs, hxs⟩ := h.exists_readsAs
  have hread : GrammarReader.readAll? {} e.grammar = some (GrammarReader.pushAll {} xs) := by
    have hall := hxs.reads {} [] (by simp [Unmarked])
    rwa [List.append_nil, readAll?_nil] at hall
  have helement : read? e.grammar = some (.sequence xs) := by
    rw [read?, hread]
    simp [pushAll, Branches.element, Branches.current]
  rw [helement, Option.map_some, normal, normal, pieces, hxs.pieces_eq]

/-- A group is written where the quantifier stands behind two characters. -/
theorem read?_grammar_eq_normal_group :
    let e : Element :=
      .sequence [.start, .repeated (.text "a.".toList) (.atLeast 1 (some .possessive)),
        .lookAhead .words]
    Readable e ∧ e.grammar = "^(?:a\\.)\x7b1,\x7d+(?=\\w+)".toList ∧
      (read? e.grammar).map normal =
        some (.sequence [.start,
          .repeated (.sequence [.text ['a'], .text ['.']]) (.atLeast 1 (some .possessive)),
          .lookAhead (.sequence [.repeated (.sequence [.word]) (.oneOrMore none)])]) := by
  have hreadable : Readable (.sequence [.start,
      .repeated (.text "a.".toList) (.atLeast 1 (some .possessive)), .lookAhead .words]) := by
    refine .sequence (List.cons_ne_nil _ _) ?_
    simp only [List.mem_cons, List.not_mem_nil, or_false, forall_eq_or_imp, forall_eq]
    exact ⟨.leaf rfl, .repeated (.text (by decide)) _, .lookAhead (.leaf rfl)⟩
  refine ⟨hreadable, ?_, read?_grammar_eq_normal hreadable⟩
  change ['^'] ++ (Element.unit 2 (grammar (.text "a.".toList)) ++ _ ++ _) = _
  rw [grammar_text]
  decide

/-- Without the group, the quantifier would apply to the last character only. -/
example : read? "ab*".toList =
    some (.sequence [.text ['a'], .repeated (.text ['b']) (.zeroOrMore none)]) := by
  cbv

end Element

end PatternAlgebra
