import PatternAlgebra.Proofs.Engine.Row
import PatternAlgebra.Proofs.Text.LetterCase
import PatternAlgebra.Search.Literal

/-! Grammars of subsequences. The engine reads such a grammar, which ignores case, as groups in a row,
each of them a single character, with a run of anything between two of them. It refuses the grammar
only for its size. -/
namespace PatternAlgebra

/-- A character that has a meaning in grammars has no other case. -/
lemma caseFold_eq_of_special {c : Char} (hc : isSpecialChar c = true) (d : Char) :
    caseFold d = caseFold c ↔ d = c := by
  have hself : decide (caseFold c = c) = true :=
    Sign.eq_true_of_special (p := fun c => decide (caseFold c = c)) (by decide) hc
  have hbounds : decide (0 < c.toNat ∧ ¬(97 ≤ c.toNat ∧ c.toNat ≤ 122)) = true :=
    Sign.eq_true_of_special (p := fun c => decide (0 < c.toNat ∧ ¬(97 ≤ c.toNat ∧ c.toNat ≤ 122)))
      (by decide) hc
  have hruns : decide (∀ run ∈ foldRuns, run.Misses c.toNat) = true :=
    Sign.eq_true_of_special (p := fun c => decide (∀ run ∈ foldRuns, run.Misses c.toNat))
      (by decide +kernel) hc
  have hbounds := of_decide_eq_true hbounds
  rw [of_decide_eq_true hself]
  constructor
  · intro hd
    unfold caseFold at hd
    split_ifs at hd with hascii hupper
    · -- an upper case letter has a lower case one as its folding
      have hlo : 65 ≤ d.toNat := hupper.1
      have hhi : d.toNat ≤ 90 := hupper.2
      have hvalid : (d.toNat + 32).isValidChar := Or.inl (by omega)
      have hnat := congrArg Char.toNat hd
      rw [Char.toNat_ofNat, if_pos hvalid] at hnat
      omega
    · exact hd
    · exact eq_of_mapThrough hbounds.1.ne' (of_decide_eq_true hruns) hd
  · rintro rfl
    exact of_decide_eq_true hself

namespace Engine

/-- A part of the grammar of a subsequence: a character in a group of its own, or what may stand between
two of them. -/
inductive Link where
  | letter (n : ℕ) (c : Char)
  | gap

namespace Link

/-- The characters that are the same as one, up to case. One with a meaning is escaped, and has no
other case. -/
def set (c : Char) : CharSet := if isSpecialChar c then .single c else .caseless c

lemma contains_set (c d : Char) : (set c).contains d = true ↔ caseFold d = caseFold c := by
  unfold set
  split_ifs with hc
  · rw [caseFold_eq_of_special hc]
    exact beq_iff_eq
  · exact beq_iff_eq

/-- The expression for a character, without its group. -/
def charExpr (c : Char) : Expr := .set (set c) (if isSpecialChar c then 0 else 1)

def expr : Link → Expr
  | letter n c => .group n (charExpr c)
  | gap => (Item.run .any).expr

def regular : Link → Regular
  | letter n c => .group n (.set (set c))
  | gap => (Item.run .any).regular

def part (l : Link) : Part := .atom l.expr true

lemma becomes_expr (l : Link) : l.expr.Becomes l.regular where
  asFactor := by cases l <;> rfl
  branches := by cases l <;> rfl
  isFactor := by cases l <;> trivial

lemma isEasy_expr (l : Link) : l.expr.isEasy = true := by cases l <;> rfl

lemma within_expr (l : Link) : l.expr.Within 2 := by
  cases l with
  | letter n c =>
    have hdepth : (if isSpecialChar c then 0 else 1) ≤ 1 := by split_ifs <;> omega
    constructor <;> exact Nat.succ_le_succ hdepth
  | gap => constructor <;> decide

end Link

/-- The parts of the grammar of a subsequence, in which `n` groups come before. -/
def links : (n : ℕ) → Text → List Link
  | _, [] => []
  | n, [c] => [.letter (n + 1) c]
  | n, c :: s => .letter (n + 1) c :: .gap :: links (n + 1) s

lemma links_cons (n : ℕ) (c : Char) {s : Text} (hs : s ≠ []) :
    links n (c :: s) = .letter (n + 1) c :: .gap :: links (n + 1) s := by
  rw [links]
  exact hs

lemma links_ne_nil (n : ℕ) {s : Text} (hs : s ≠ []) : links n s ≠ [] := by
  fun_cases links n s with
  | case1 => contradiction
  | case2 => exact List.cons_ne_nil _ _
  | case3 => exact List.cons_ne_nil _ _

lemma length_links_le (n : ℕ) (s : Text) : (links n s).length ≤ 2 * s.length := by
  fun_induction links n s with
  | case1 => exact Nat.le_refl 0
  | case2 => exact Nat.le_succ 1
  | case3 n c s _ ih =>
    simp only [List.length_cons]
    omega

lemma Link.bytes_regular_le (backward : Bool) (l : Link) : l.regular.bytes backward ≤ 1040 := by
  cases l with
  | letter n c =>
    have hset : (set c).bytes backward ≤ 400 := by
      have hle := c.utf8Size_le_four
      rw [set]
      split_ifs
      · rw [CharSet.bytes]
        omega
      · rw [CharSet.bytes]
        split_ifs <;> omega
    rw [regular, Regular.bytes, Regular.bytes]
    split_ifs <;> omega
  | gap => cases backward <;> decide

lemma sum_bytes_links_le (backward : Bool) (n : ℕ) (s : Text) :
    (((links n s).map Link.regular).map (Regular.bytes backward)).sum ≤ 2080 * s.length := by
  have hle := List.sum_le_card_nsmul (((links n s).map Link.regular).map (Regular.bytes backward)) 1040
    fun m hm => by
      obtain ⟨r, hr, rfl⟩ := List.mem_map.mp hm
      obtain ⟨l, -, rfl⟩ := List.mem_map.mp hr
      exact l.bytes_regular_le backward
  have hlength := length_links_le n s
  simp only [List.length_map, smul_eq_mul] at hle
  omega

/-- What may stand between two characters takes most of the room. -/
lemma le_sum_bytes_links (n : ℕ) (s : Text) :
    464 * (s.length - 1) ≤ (((links n s).map Link.regular).map (Regular.bytes false)).sum := by
  have hgap : Link.gap.regular.bytes false = 464 := by decide
  fun_induction links n s with
  | case1 => exact Nat.zero_le _
  | case2 => exact Nat.zero_le _
  | case3 n c s hs ih =>
    have hpos := List.length_pos_iff.mpr hs
    simp only [List.map_cons, List.sum_cons, List.length_cons, hgap]
    omega

lemma groups_links (n : ℕ) (s : Text) :
    ((links n s).flatMap fun l => l.regular.groups) = List.range' (n + 1) s.length := by
  induction s generalizing n with
  | nil => rfl
  | cons c s ih =>
    by_cases hs : s = []
    · subst hs
      rfl
    · rw [links_cons n c hs, List.flatMap_cons, List.flatMap_cons, ih, List.length_cons,
        List.range'_succ]
      rfl

/-! ### Reading -/

lemma subsequenceGrammar_singleton (c : Char) :
    Search.subsequenceGrammar [c] = '(' :: (escapeEach [c] ++ [')']) := by
  rw [Search.subsequenceGrammar, escapePattern_eq_escapeEach, List.cons_append]

lemma subsequenceGrammar_cons (c : Char) {s : Text} (hs : s ≠ []) :
    Search.subsequenceGrammar (c :: s) =
      '(' :: (escapeEach [c] ++ ')' :: '.' :: '*' :: Search.subsequenceGrammar s) := by
  rw [Search.subsequenceGrammar, escapePattern_eq_escapeEach, List.append_assoc, List.cons_append]
  · rfl
  · exact hs

lemma subsequenceGrammar_ne_nil {s : Text} (hs : s ≠ []) : Search.subsequenceGrammar s ≠ [] := by
  obtain ⟨c, t, rfl⟩ := List.exists_cons_of_ne_nil hs
  by_cases ht : t = []
  · rw [ht, subsequenceGrammar_singleton]
    exact List.cons_ne_nil _ _
  · rw [subsequenceGrammar_cons c ht]
    exact List.cons_ne_nil _ _

/-- A group that does not begin with a question mark captures. -/
lemma readOpener?_capture {t : Text} (hblank : Lexeme.beginsWithBlank false t = false)
    (ht : t.head? ≠ some '?') : Lexeme.readOpener? false t = some (.opener (.capture none), t) := by
  have hskip : Lexeme.skip? false t = some t := by simp [Lexeme.skip?, hblank]
  have hne (u : Text) : t ≠ '?' :: u := by
    rintro rfl
    exact ht rfl
  rw [Lexeme.readOpener?, hskip]
  simp only [Option.bind_eq_bind, Option.bind_some]
  split <;> first | rfl | exact absurd rfl (hne _)

namespace Assembly

variable {bound fuel n : ℕ} {ps qs : List Part} {pending : Pending} {s : Text}

/-- What is held of a grammar that ignores case outside of its groups. -/
def outside (n : ℕ) (ps : List Part) (pending : Pending) : Assembly :=
  { flags := { ignoreCase := true }, groups := n, frame := { kind := .root, parts := ps, pending } }

/-- What is held inside of its group number `n`, behind some parts. -/
def inside (n : ℕ) (ps : List Part) (pending : Pending) : Assembly :=
  { flags := { ignoreCase := true }, groups := n, frame := { kind := .capture n, pending },
    outer := [{ kind := .root, parts := ps }] }

lemma read?_ignoringCase (t : Text) :
    read? bound (fuel + 1) {} ("(?i)".toList ++ t) =
      read? bound fuel (outside 0 [] (.ready .nothing)) t := by
  have hnext (after : Bool) : Lexeme.next? false after ("(?i)".toList ++ t) =
      some (.directive [(.ignoreCase, true)], t) := by
    simp [Lexeme.next?, Lexeme.readOpener?, Lexeme.skip?, Lexeme.beginsWithBlank, Lexeme.readFlags?,
      Lexeme.flagOfLetter?]
  exact read?_lexeme rfl (hnext _) rfl

lemma read?_opening (c : Char) (t : Text) (h : (outside n qs pending).settle = outside n ps .none) :
    read? bound (fuel + 1) (outside n qs pending) ('(' :: (escapeEach [c] ++ t)) =
      read? bound fuel (inside (n + 1) ps .none) (escapeEach [c] ++ t) := by
  have hhead : (escapeEach [c] ++ t).head? ≠ some '?' :=
    (Sign.unmarked_escapeEach (List.cons_ne_nil c []) t).2
  have hinner : Lexeme.beginsWithBlank false (escapeEach [c] ++ t) = false :=
    (Atom.char c).beginsWithBlank_text t
  have hblank : Lexeme.beginsWithBlank false ('(' :: (escapeEach [c] ++ t)) = false := by
    generalize escapeEach [c] ++ t = u at hhead
    unfold Lexeme.beginsWithBlank
    split
    · rename_i heq
      obtain rfl := (List.cons.inj heq).2
      exact absurd rfl hhead
    · rfl
    · rfl
  have hstep : (outside n qs pending).step? bound (escapeEach [c] ++ t) (.opener (.capture none)) =
      some (inside (n + 1) ps .none) := by
    rw [step?, open?, enter?, h]
    rfl
  exact read?_lexeme hblank (readOpener?_capture hinner hhead) hstep

lemma read?_inner (c : Char) (t : Text) :
    read? bound (fuel + 1) (inside n ps .none) (escapeEach [c] ++ t) =
      read? bound fuel (inside n ps (.ready (.atom (Link.charExpr c) true))) t := by
  refine read?_lexeme ((Atom.char c).beginsWithBlank_text t) ((Atom.char c).next?_text _ t) ?_
  rw [Atom.lexeme, Link.charExpr, Link.set]
  split_ifs <;> rfl

lemma read?_closing (e : Expr) (t : Text) :
    read? bound (fuel + 1) (inside n ps (.ready (.atom e true))) (')' :: t) =
      read? bound fuel (outside n ps (.ready (.atom (.group n e) true))) t :=
  read?_lexeme (beginsWithBlank_cons (by decide) t) rfl rfl

/-- Reading a character in a group of its own. -/
lemma read?_letter (fuel : ℕ) (c : Char) (t : Text)
    (h : (outside n qs pending).settle = outside n ps .none) :
    read? bound (fuel + 3) (outside n qs pending) ('(' :: (escapeEach [c] ++ ')' :: t)) =
      read? bound fuel (outside (n + 1) ps (.ready (Link.letter (n + 1) c).part)) t := by
  rw [read?_opening c _ h, read?_inner, read?_closing]
  rfl

/-- Reading what may stand between two characters. -/
lemma read?_gap (l : Link) (t : Text) :
    read? bound (fuel + 2) (outside n ps (.ready l.part)) ('.' :: '*' :: t) =
      read? bound fuel (outside n (l.part :: ps) (Item.run .any).pending) t := by
  have hstar (after : Bool) : Lexeme.next? false after ('*' :: t) = some (.star, t) := rfl
  rw [read?_lexeme (beginsWithBlank_cons (by decide) _) rfl rfl]
  exact read?_lexeme (beginsWithBlank_cons (by decide) t) (hstar _) rfl

/-- Reading all characters, behind some parts. -/
lemma exists_read?_subsequence (hs : s ≠ []) (h : (outside n qs pending).settle = outside n ps .none)
    (hfuel : (Search.subsequenceGrammar s).length < fuel) :
    ∃ a, read? bound fuel (outside n qs pending) (Search.subsequenceGrammar s) = some a ∧
      a.settle = outside (n + s.length) (((links n s).map Link.part).reverse ++ ps) .none := by
  have hletter (c : Char) : 0 < (escapeEach [c]).length := (Atom.char c).length_text_pos
  induction s generalizing n ps qs pending fuel with
  | nil => exact absurd rfl hs
  | cons c s ih =>
    have hpos := hletter c
    by_cases hrest : s = []
    · subst hrest
      rw [subsequenceGrammar_singleton] at hfuel ⊢
      simp only [List.length_cons, List.length_append, List.length_nil] at hfuel
      obtain ⟨left, rfl⟩ := Nat.exists_eq_add_of_le' (show 4 ≤ fuel by omega)
      exact ⟨_, (read?_letter (left + 1) c [] h).trans (read?_nil bound left _), rfl⟩
    · rw [subsequenceGrammar_cons c hrest] at hfuel ⊢
      simp only [List.length_cons, List.length_append] at hfuel
      obtain ⟨left, rfl⟩ := Nat.exists_eq_add_of_le' (show 5 ≤ fuel by omega)
      have hgap : (outside (n + 1) ((Link.letter (n + 1) c).part :: ps)
          (Item.run .any).pending).settle =
            outside (n + 1) (Link.gap.part :: (Link.letter (n + 1) c).part :: ps) .none := rfl
      have hleft : (Search.subsequenceGrammar s).length < left := by omega
      obtain ⟨a, hread, ha⟩ := ih hrest hgap hleft
      refine ⟨a, ?_, ?_⟩
      · rw [read?_letter (left + 2) c _ h, read?_gap, hread]
      · rw [ha, links_cons n c hrest, List.length_cons]
        simp [Nat.add_comm, Nat.add_left_comm]

lemma finish?_of_settle {a : Assembly} (h : a.settle = outside n ps .none) :
    a.finish? = some (Expr.ofSequence (ps.reverse.map Part.expr)) := by
  have houter : a.outer = [] := congrArg Assembly.outer h
  have hcontent : a.content? = some (Part.ofSequence ps.reverse) := by
    rw [content?, h]
    rfl
  rw [finish?, houter]
  simp only [hcontent, Option.map_some, Part.expr_ofSequence]

end Assembly

/-- The regular expression for a subsequence. -/
def subsequenceRegular (s : Text) : Regular := .row ((links 0 s).map Link.regular)

/-- The program for a subsequence. -/
def subsequenceProgram (s : Text) : Program where
  body := .regular (subsequenceRegular s)
  groups := s.length
  lastGroup := s.length
  names := []

/-- The engine takes the grammar of a subsequence unless it is too large. -/
theorem ofGrammar?_subsequence {s : Text} (hs : s ≠ []) :
    Program.ofGrammar? ("(?i)".toList ++ Search.subsequenceGrammar s) =
      if (subsequenceRegular s).size ≤ Regular.sizeLimit then some (subsequenceProgram s)
      else none := by
  have hlast (n : ℕ) : (List.range' 1 n).foldl max 0 = n := by
    induction n with
    | zero => rfl
    | succ n ih =>
      rw [List.range'_1_concat, List.foldl_append, ih, List.foldl_cons, List.foldl_nil]
      omega
  have hparts : ∀ l ∈ links 0 s, l.expr.Becomes l.regular ∧ l.expr.isEasy = true ∧ l.expr.Within 2 :=
    fun l _ => ⟨l.becomes_expr, l.isEasy_expr, l.within_expr⟩
  have hstart : (Assembly.outside 0 [] (.ready .nothing)).settle = .outside 0 [] .none := rfl
  have hlt : (Search.subsequenceGrammar s).length < (Search.subsequenceGrammar s).length + 4 := by omega
  have hlength : ("(?i)".toList ++ Search.subsequenceGrammar s).length =
      (Search.subsequenceGrammar s).length + 4 := by
    rw [List.length_append, Nat.add_comm]
    rfl
  obtain ⟨a, hread, ha⟩ := Assembly.exists_read?_subsequence hs hstart hlt
  have hnames : a.names = [] := congrArg Assembly.names ha
  have hgroups : a.groups = 0 + s.length := congrArg Assembly.groups ha
  have hexprs : ((links 0 s).map Link.part).map Part.expr = (links 0 s).map Link.expr := List.map_map
  have hfinish := Assembly.finish?_of_settle ha
  rw [List.append_nil, List.reverse_reverse, hexprs] at hfinish
  rw [Program.ofGrammar?, hlength, Assembly.read?_ignoringCase, hread]
  simp only [Option.bind_eq_bind, Option.bind_some, hfinish, hnames,
    Program.ofExpr?_ofSequence [] a.groups hparts (by decide), groups_links, List.length_range', hlast]
  rfl

end Engine

end PatternAlgebra
