import PatternAlgebra.Proofs.Engine.Bracket
import PatternAlgebra.Proofs.Engine.Factors

/-! Rows of plain items. The grammars of common searches have no groups and no alternatives: they are
items in a row, each of which is a set with a sign of its own, any number of its members, or an
assertion. The engine reads such a grammar item by item and makes one factor of each. It refuses the
row only for its size. -/
namespace PatternAlgebra.Engine

/-- A set of characters with a sign of its own. -/
inductive Atom where
  | char (c : Char)
  | any
  | space

namespace Atom

def text : Atom → Text
  | char c => escapeEach [c]
  | any => ['.']
  | space => ['\\', 's']

def set : Atom → CharSet
  | char c => .single c
  | any => .complement (.single '\n')
  | space => .space

def lexeme : Atom → Lexeme
  | char c => if isSpecialChar c then .escape (.char c) else .char c
  | any => .dot
  | space => .escape (.set .space)

end Atom

inductive Item where
  | one (a : Atom)
  /-- As many members of a set as possible. -/
  | run (a : Atom)
  | start
  | stop
  | boundary

namespace Item

def text : Item → Text
  | one a => a.text
  | run a => a.text ++ ['*']
  | start => ['^']
  | stop => ['$']
  | boundary => ['\\', 'b']

def expr : Item → Expr
  | one a => .set a.set 0
  | run a => .repeated (.set a.set 0) 0 none true
  | start => .assertion .textStart
  | stop => .assertion .textEnd
  | boundary => .assertion .wordBoundary

def repeatable : Item → Bool
  | one _ | run _ => true
  | start | stop | boundary => false

def part (i : Item) : Part := .atom i.expr i.repeatable

/-- What has been read of an item, as long as more may be said about it. -/
def pending : Item → Pending
  | run a => .counted (.set a.set 0) 0 none false
  | i => .ready i.part

def regular : Item → Regular
  | one a => .set a.set
  | run a => .run a.set 0 none true
  | start => .look .textStart
  | stop => .look .textEnd
  | boundary => .look .wordBoundary

/-- Whether an item needs no backtracking. -/
def isEasy (i : Item) : Bool := i.expr.isEasy

end Item

/-! ### Reading -/

namespace Assembly

variable {is js : List Item}

/-- What is held behind some items, the last of which comes first. -/
def holding : List Item → Assembly
  | [] => {}
  | i :: is => { frame := { kind := .root, parts := is.map Item.part, pending := i.pending } }

lemma settle_holding (is : List Item) :
    (holding is).settle = { frame := { kind := .root, parts := is.map Item.part } } := by
  cases is with
  | nil => rfl
  | cons i is => cases i <;> rfl

lemma await_holding (is : List Item) (i : Item) (hi : i.pending = .ready i.part) :
    (holding is).await i.part = holding (i :: is) := by
  rw [await, settle_holding, holding, hi]

end Assembly

lemma beginsWithBlank_cons {c : Char} (hc : c ≠ '(') (t : Text) :
    Lexeme.beginsWithBlank false (c :: t) = false := by
  rw [Lexeme.beginsWithBlank]
  · rfl
  · exact fun _ h => absurd h hc

/-- A character without a meaning is a lexeme of its own. -/
lemma next?_of_not_special {c : Char} (hc : isSpecialChar c = false) (after : Bool) (t : Text) :
    Lexeme.next? false after (c :: t) = some (.char c, t) := by
  have hne {d : Char} (hd : isSpecialChar d = true) : c ≠ d := Sign.ne_of_not_special hc hd
  rw [Lexeme.next?]
  all_goals exact hne (by decide)

namespace Atom

lemma length_text_pos (a : Atom) : 0 < a.text.length := by
  cases a with
  | char c =>
    rw [text, List.length_pos_iff]
    obtain ⟨d, t, ht, -⟩ := Sign.exists_cons_escapeEach (List.cons_ne_nil c [])
    rw [ht]
    exact List.cons_ne_nil d t
  | any => decide
  | space => decide

lemma beginsWithBlank_text (a : Atom) (t : Text) :
    Lexeme.beginsWithBlank false (a.text ++ t) = false := by
  cases a with
  | char c =>
    rw [text]
    cases hc : isSpecialChar c with
    | true =>
      rw [Sign.escapeEach_cons_of_special hc]
      exact beginsWithBlank_cons (by decide) _
    | false =>
      rw [Sign.escapeEach_cons_of_not_special hc]
      exact beginsWithBlank_cons (Sign.ne_of_not_special hc (by decide)) _
  | any => exact beginsWithBlank_cons (by decide) _
  | space => exact beginsWithBlank_cons (by decide) _

lemma next?_text (a : Atom) (after : Bool) (t : Text) :
    Lexeme.next? false after (a.text ++ t) = some (a.lexeme, t) := by
  cases a with
  | char c =>
    rw [text, lexeme]
    cases hc : isSpecialChar c with
    | true =>
      have hread := (Bracket.readEscape?_of_special hc t).1
      rw [Sign.escapeEach_cons_of_special hc]
      simp [Lexeme.next?, hread, escapeEach]
    | false =>
      rw [Sign.escapeEach_cons_of_not_special hc]
      exact next?_of_not_special hc after t
  | any => rfl
  | space => rfl

lemma step?_lexeme (a : Atom) {b : Assembly} (hb : b.flags = {}) (bound : ℕ) (t : Text) :
    b.step? bound t a.lexeme = some (b.await (Item.one a).part) := by
  have hfolding (s : CharSet) : b.awaitFolding s = b.awaitExpr (.set s 0) := by
    rw [Assembly.awaitFolding, hb]
    rfl
  cases a with
  | char c =>
    rw [lexeme]
    split_ifs
    · rfl
    · rw [Assembly.step?, hfolding, hb]
      rfl
  | any =>
    rw [lexeme, Assembly.step?, hb]
    rfl
  | space => exact congrArg some (hfolding .space)

end Atom

namespace Item

/-- How many lexemes an item has. -/
def lexemes : Item → ℕ
  | run _ => 2
  | _ => 1

lemma lexemes_le_length_text (i : Item) : i.lexemes ≤ i.text.length := by
  cases i with
  | one a => exact a.length_text_pos
  | run a =>
    have hpos := a.length_text_pos
    simp only [text, lexemes, List.length_append, List.length_singleton]
    omega
  | _ => simp [text, lexemes]

/-- A brace would be escaped. -/
lemma head?_row_ne (is : List Item) : (is.flatMap text).head? ≠ some '\x7b' := by
  cases is with
  | nil => exact Option.some_ne_none _ ∘ Eq.symm
  | cons i is =>
    have hatom (a : Atom) (t : Text) : (a.text ++ t).head? ≠ some '\x7b' := by
      cases a with
      | char c =>
        obtain ⟨d, u, hu, hd⟩ := Sign.exists_cons_escapeEach (List.cons_ne_nil c [])
        have hne : d ≠ '\x7b' := Sign.ne_of_begins hd (by decide) (by decide)
        simpa [Atom.text, hu] using hne
      | _ => simp [Atom.text]
    rw [List.flatMap_cons]
    cases i with
    | one a => exact hatom a _
    | run a =>
      rw [text, List.append_assoc]
      exact hatom a _
    | _ => simp [text]

end Item

namespace Assembly

variable {bound fuel : ℕ} {is js : List Item} {t : Text}

@[simp] lemma flags_holding (is : List Item) : (holding is).flags = {} := by cases is <;> rfl

@[simp] lemma groups_holding (is : List Item) : (holding is).groups = 0 := by cases is <;> rfl

@[simp] lemma names_holding (is : List Item) : (holding is).names = [] := by cases is <;> rfl

/-- Reading an item that is a single lexeme. -/
lemma read?_lexeme_of_item {i : Item} (is : List Item) {u : Text} {lexeme : Lexeme}
    (hi : i.pending = .ready i.part) (hblank : Lexeme.beginsWithBlank false u = false)
    (hnext : ∀ after, Lexeme.next? false after u = some (lexeme, t))
    (hstep : ∀ a : Assembly, a.flags = {} → a.step? bound t lexeme = some (a.await i.part)) :
    read? bound (fuel + 1) (holding is) u = read? bound fuel (holding (i :: is)) t := by
  rw [← await_holding is i hi]
  refine read?_lexeme ?_ ?_ (hstep _ (flags_holding is))
  · simpa using hblank
  · simpa using hnext _

lemma read?_atom (a : Atom) (is : List Item) (t : Text) :
    read? bound (fuel + 1) (holding is) (a.text ++ t) =
      read? bound fuel (holding (.one a :: is)) t :=
  read?_lexeme_of_item is rfl (a.beginsWithBlank_text t) (fun after => a.next?_text after t)
    fun _ hb => a.step?_lexeme hb bound t

/-- Behind an atom a star makes it a run. -/
lemma read?_star (a : Atom) (is : List Item) (t : Text) :
    read? bound (fuel + 1) (holding (.one a :: is)) ('*' :: t) =
      read? bound fuel (holding (.run a :: is)) t := by
  have hnext (after : Bool) : Lexeme.next? false after ('*' :: t) = some (.star, t) := rfl
  exact read?_lexeme (beginsWithBlank_cons (by decide) t) (hnext _) rfl

/-- A brace behind a boundary would be read as a part of it. -/
lemma next?_boundary (ht : t.head? ≠ some '\x7b') (after : Bool) :
    Lexeme.next? false after ('\\' :: 'b' :: t) = some (.escape (.assertion .wordBoundary), t) := by
  have hread : readEscape? ('b' :: t) = some (.assertion .wordBoundary, t) := by
    rw [readEscape?]
    rintro u rfl
    exact ht rfl
  simp [Lexeme.next?, hread]

lemma read?_item (i : Item) (is : List Item) (ht : t.head? ≠ some '\x7b') :
    read? bound (fuel + i.lexemes) (holding is) (i.text ++ t) =
      read? bound fuel (holding (i :: is)) t := by
  cases i with
  | one a => exact read?_atom a is t
  | run a =>
    rw [Item.text, Item.lexemes, List.append_assoc, List.singleton_append, read?_atom, read?_star]
  | start =>
    refine read?_lexeme_of_item is rfl (beginsWithBlank_cons (by decide) t) (fun _ => rfl) ?_
    intro b hb
    rw [step?, hb]
    rfl
  | stop =>
    refine read?_lexeme_of_item is rfl (beginsWithBlank_cons (by decide) t) (fun _ => rfl) ?_
    intro b hb
    rw [step?, hb]
    rfl
  | boundary =>
    exact read?_lexeme_of_item is rfl (beginsWithBlank_cons (by decide) ('b' :: t))
      (next?_boundary ht) fun _ _ => rfl

/-- Reading a row item by item. -/
theorem read?_row (bound : ℕ) (is js : List Item) (hfuel : (js.flatMap Item.text).length < fuel) :
    read? bound fuel (holding is) (js.flatMap Item.text) = some (holding (js.reverse ++ is)) := by
  induction js generalizing is fuel with
  | nil =>
    obtain ⟨fuel, rfl⟩ := Nat.exists_eq_succ_of_ne_zero (Nat.ne_zero_of_lt hfuel)
    exact read?_nil bound fuel _
  | cons j js ih =>
    have hle := j.lexemes_le_length_text
    rw [List.flatMap_cons, List.length_append] at hfuel
    obtain ⟨left, rfl⟩ := Nat.exists_eq_add_of_le' (show j.lexemes ≤ fuel by omega)
    rw [List.flatMap_cons, read?_item j is (Item.head?_row_ne js), ih (j :: is) (by omega),
      List.reverse_cons, List.append_assoc, List.singleton_append]

lemma finish?_holding (is : List Item) :
    (holding is).finish? = some (Expr.ofSequence (is.reverse.map Item.expr)) := by
  have houter : (holding is).outer = [] := by cases is <;> rfl
  have hcontent : (holding is).content? = some (Part.ofSequence (is.reverse.map Item.part)) := by
    rw [content?, settle_holding, List.map_reverse]
    rfl
  rw [finish?, houter]
  simp only [hcontent, Option.map_some, Part.expr_ofSequence, List.map_map]
  rfl

end Assembly

/-! ### Expressions -/

namespace Item

/-- The expression for items in a row. -/
def rowExpr : List Item → Expr
  | [] => .empty
  | [i] => i.expr
  | i :: is => .seq i.expr (rowExpr is)

/-- The regular expression for items in a row. -/
def rowRegular : List Item → Regular
  | [] => .empty
  | [i] => i.regular
  | i :: is => .seq i.regular (rowRegular is)

lemma rowExpr_cons (i : Item) {is : List Item} (his : is ≠ []) :
    rowExpr (i :: is) = .seq i.expr (rowExpr is) := by
  rw [rowExpr]
  exact his

lemma becomes_expr (i : Item) : i.expr.Becomes i.regular where
  asFactor := by cases i <;> rfl
  branches := by cases i <;> rfl
  isFactor := by cases i <;> trivial

lemma within_expr (i : Item) : i.expr.Within 1 := by
  cases i <;> constructor <;> simp [expr, Expr.nesting, Assertion.isLineBound]

lemma ofSequence_map_expr (is : List Item) : Expr.ofSequence (is.map expr) = rowExpr is := by
  induction is with
  | nil => rfl
  | cons i is ih =>
    cases is with
    | nil => rfl
    | cons j is =>
      have hchain : ∀ e ∈ (j :: is).map expr, e.asFactor = e := by
        intro e he
        obtain ⟨k, -, rfl⟩ := List.mem_map.mp he
        exact k.becomes_expr.asFactor
      rw [List.map_cons, Expr.ofSequence_cons i.becomes_expr.asFactor hchain (List.cons_ne_nil _ _),
        ih, rowExpr_cons i (List.cons_ne_nil j is)]

lemma row_map_regular (is : List Item) : Regular.row (is.map regular) = rowRegular is := by
  fun_induction rowRegular is with
  | case1 => rfl
  | case2 i => rfl
  | case3 i is hne ih =>
    rw [List.map_cons, Regular.row_cons i.regular (by simpa using hne), ih]

lemma isEasy_rowExpr (is : List Item) : (rowExpr is).isEasy = is.all isEasy := by
  fun_induction rowExpr is with
  | case1 => rfl
  | case2 i => simp [isEasy]
  | case3 i is _ ih => rw [Expr.isEasy, ih, List.all_cons, isEasy]

/-- How many bytes an item adds to the automaton for one direction. -/
def bytes (backward : Bool) (i : Item) : ℕ := i.regular.bytes backward

lemma size_rowRegular_le {is : List Item} {limit : ℕ} (hne : is ≠ [])
    (h : ∀ backward, (is.map (bytes backward)).sum + 208 ≤ limit) :
    (rowRegular is).size ≤ limit := by
  rw [← row_map_regular]
  refine Regular.size_row_le (by simpa using hne) fun backward => ?_
  rw [List.map_map]
  exact h backward

lemma le_size_rowRegular (is : List Item) : (is.map (bytes false)).sum ≤ (rowRegular is).size := by
  have hrow := Regular.le_size_row (is.map regular)
  rwa [row_map_regular, List.map_map] at hrow

/-- The program for a row that needs no backtracking. -/
def rowProgram (is : List Item) : Program where
  body := .regular (rowRegular is)
  groups := 0
  lastGroup := 0
  names := []

lemma ofGrammar?_eq_ofExpr? (is : List Item) :
    Program.ofGrammar? (is.flatMap text) = Program.ofExpr? [] 0 (rowExpr is) := by
  have hread := Assembly.read?_row (Text.byteLength (is.flatMap text) / 2) [] is
    (Nat.lt_succ_self _)
  rw [List.append_nil] at hread
  have hstart : Assembly.holding [] = {} := rfl
  rw [Program.ofGrammar?, ← hstart, hread]
  simp only [Option.bind_eq_bind, Option.bind_some, Assembly.finish?_holding, List.reverse_reverse,
    ofSequence_map_expr, Assembly.names_holding, Assembly.groups_holding]

/-- The engine takes a row that needs no backtracking unless it is too large. -/
theorem ofGrammar?_row {is : List Item} (heasy : is.all isEasy = true) :
    Program.ofGrammar? (is.flatMap text) =
      if (rowRegular is).size ≤ Regular.sizeLimit then some (rowProgram is) else none := by
  have hparts : ∀ i ∈ is, i.expr.Becomes i.regular ∧ i.expr.isEasy = true ∧ i.expr.Within 1 :=
    fun i hi => ⟨i.becomes_expr, List.all_eq_true.mp heasy i hi, i.within_expr⟩
  have hnumbers : (is.flatMap fun i => i.regular.groups) = [] := by
    rw [List.flatMap_eq_nil_iff]
    rintro (_ | _ | _ | _ | _) _ <;> rfl
  rw [ofGrammar?_eq_ofExpr?, ← ofSequence_map_expr,
    Program.ofExpr?_ofSequence [] 0 hparts (by decide), hnumbers, row_map_regular]
  rfl

/-! ### Plans -/

def plan : Item → Plan
  | one a => .set a.set
  | run a => .zeroOrMore (.set a.set) true
  | start => .check .textStart
  | stop => .check .textEnd
  | boundary => .check .wordBoundary

/-- The plan for items in a row. -/
def rowPlan : List Item → Plan
  | [] => .done
  | [i] => i.plan
  | i :: is => .seq i.plan (rowPlan is)

lemma ofExpr?_expr (i : Item) : Plan.ofExpr? i.expr (.whole true) = some i.plan := by
  cases i <;> rfl

lemma append_rowPlan (i : Item) {is : List Item} (his : is ≠ []) :
    i.plan.append (rowPlan is) = rowPlan (i :: is) := by
  obtain ⟨j, is, rfl⟩ := List.exists_cons_of_ne_nil his
  have hne : rowPlan (j :: is) ≠ .done := by
    cases is with
    | nil => cases j <;> exact Plan.noConfusion
    | cons => exact Plan.noConfusion
  change _ = Plan.seq i.plan (rowPlan (j :: is))
  generalize rowPlan (j :: is) = p at hne
  cases i <;> cases p <;> first | rfl | contradiction

/-- Behind an item a boundary at the end leaves nothing to a search of its own. -/
lemma ofExpr?_rest (is : List Item) :
    Plan.ofExpr? (rowExpr (is ++ [boundary])) (.rest true) = some (rowPlan (is ++ [boundary])) := by
  induction is with
  | nil => rfl
  | cons i is ih =>
    have hne : is ++ [boundary] ≠ [] := by simp
    have hexpr := rowExpr_cons i hne
    have hunit : Plan.isUnit true (.seq i.expr (rowExpr (is ++ [boundary]))) = false := by
      rw [← hexpr, Plan.isUnit, isEasy_rowExpr]
      simp [isEasy, expr, Expr.isEasy, Assertion.isEasy]
    rw [List.cons_append, hexpr, Plan.ofExpr?, Plan.chain]
    simp only [hunit, ofExpr?_expr, ih, Option.bind_eq_bind, Option.bind_some, Bool.false_eq_true,
      if_false, append_rowPlan i hne]

/-- The program for a row between boundaries. -/
def boundedProgram (is : List Item) : Program where
  body := .planned (rowPlan (boundary :: (is ++ [boundary])))
  groups := 0
  lastGroup := 0
  names := []

/-- The engine takes every row between boundaries. -/
theorem ofGrammar?_bounded (is : List Item) :
    Program.ofGrammar? ((boundary :: (is ++ [boundary])).flatMap text) = some (boundedProgram is) := by
  have hne : is ++ [boundary] ≠ [] := by simp
  have hexpr := rowExpr_cons boundary hne
  have hplan : Plan.ofExpr? (rowExpr (boundary :: (is ++ [boundary]))) (.whole true) =
      some (boundary.plan.append (rowPlan (is ++ [boundary]))) := by
    have hfirst : boundary.expr.isEasy = false := rfl
    have hunit : Plan.isUnit true (.seq boundary.expr (rowExpr (is ++ [boundary]))) = false := rfl
    rw [hexpr, Plan.ofExpr?, Plan.chain]
    simp only [hfirst, hunit, ofExpr?_expr, ofExpr?_rest, Bool.not_true, Bool.false_and,
      Bool.false_eq_true, if_false, List.reverse_nil]
    rfl
  have hhard : (rowExpr (boundary :: (is ++ [boundary]))).isEasy = false := by
    rw [isEasy_rowExpr]
    rfl
  rw [ofGrammar?_eq_ofExpr?, Program.ofExpr?, hhard, hplan, append_rowPlan boundary hne]
  rfl

end Item

end PatternAlgebra.Engine
