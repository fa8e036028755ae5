import PatternAlgebra.Proofs.Element.Reading

/-! Grammars scanned from left to right. A scanner that skips what stands behind a backslash and what
is in a set meets the parentheses that make groups. The grammar of an element leaves it where it was,
with the groups that the element's captures open. -/
namespace PatternAlgebra

/-- What a scanner of a grammar is in. -/
inductive ScanMode where
  | plain
  | escaped
  /-- Behind the bracket that opens a set, where a closing bracket is a member. -/
  | opened
  /-- Behind the caret that inverts a set, where it is a member too. -/
  | negated
  | inSet
  | escapedInSet
  deriving DecidableEq, Repr

def ScanMode.after : ScanMode → Char → ScanMode
  | plain, c => if c = '\\' then escaped else if c = '[' then opened else plain
  | escaped, _ => plain
  | opened, c => if c = '\\' then escapedInSet else if c = '^' then negated else inSet
  | negated, c => if c = '\\' then escapedInSet else inSet
  | inSet, c => if c = '\\' then escapedInSet else if c = ']' then plain else inSet
  | escapedInSet, _ => inSet

structure Scanner where
  mode : ScanMode := .plain
  /-- How many groups are open. -/
  depth : ℕ := 0
  deriving DecidableEq, Repr

namespace Scanner

/-- Reads one character. There is no group to be closed where none is open. -/
def read? (s : Scanner) (c : Char) : Option Scanner :=
  if s.mode = .plain ∧ c = '(' then some { s with depth := s.depth + 1 }
  else if s.mode = .plain ∧ c = ')' then
    if s.depth = 0 then none else some { s with depth := s.depth - 1 }
  else some { s with mode := s.mode.after c }

def readAll? (s : Scanner) (t : Text) : Option Scanner := t.foldlM read? s

/-- The beginning of a text up to where the last open group is closed. -/
def group? : Scanner → Text → Option Text
  | _, [] => none
  | s, c :: t =>
    match s.read? c with
    | none => none
    | some s => if s.mode = .plain ∧ s.depth = 0 then some [c] else (s.group? t).map (c :: ·)

/-- The rests of a text from each parenthesis on that opens a group without a mark. -/
def openings : ScanMode → Text → List Text
  | _, [] => []
  | m, c :: t =>
    (if m = .plain ∧ c = '(' ∧ t.head? ≠ some '?' then [c :: t] else []) ++ openings (m.after c) t

/-- The groups without a mark in the order in which they open. -/
def groups (t : Text) : List (Option Text) := (openings .plain t).map (group? {})

/-- What a scanner is in behind a character that is no parenthesis. -/
def pass? (m : ScanMode) (c : Char) : Option ScanMode :=
  if m = .plain ∧ (c = '(' ∨ c = ')') then none else some (m.after c)

/-- A text without parentheses, of which no set and no escape goes on behind it. -/
def Quiet (g : Text) : Prop := g.foldlM pass? .plain = some .plain

instance (g : Text) : Decidable (Quiet g) := inferInstanceAs (Decidable (_ = _))

variable {g h : Text} {gs hs : List Text} {m m' : ScanMode}

lemma read?_of_pass? {c : Char} (hc : pass? m c = some m') (d : ℕ) :
    read? ⟨m, d⟩ c = some ⟨m', d⟩ := by
  unfold pass? at hc
  unfold read?
  split_ifs at hc ⊢ <;> simp_all

lemma foldlM_pass?_cons {c : Char} (hg : (c :: g).foldlM pass? m = some m') :
    ∃ n, pass? m c = some n ∧ g.foldlM pass? n = some m' :=
  Option.bind_eq_some_iff.mp hg

lemma after_of_pass? {c : Char} (hc : pass? m c = some m') : m.after c = m' := by
  unfold pass? at hc
  split_ifs at hc
  exact Option.some.inj hc

lemma readAll?_of_pass? (hg : g.foldlM pass? m = some m') (d : ℕ) :
    readAll? ⟨m, d⟩ g = some ⟨m', d⟩ := by
  induction g generalizing m with
  | nil =>
    obtain rfl := Option.some.inj hg
    rfl
  | cons c g ih =>
    obtain ⟨n, hc, hrest⟩ := foldlM_pass?_cons hg
    rw [readAll?, List.foldlM_cons, read?_of_pass? hc]
    exact ih hrest

lemma group?_of_pass? (hg : g.foldlM pass? m = some m') (d : ℕ) (rest : Text) :
    group? ⟨m, d + 1⟩ (g ++ rest) = (group? ⟨m', d + 1⟩ rest).map (g ++ ·) := by
  induction g generalizing m with
  | nil =>
    obtain rfl := Option.some.inj hg
    simp
  | cons c g ih =>
    obtain ⟨n, hc, hrest⟩ := foldlM_pass?_cons hg
    rw [List.cons_append, group?, read?_of_pass? hc]
    simp [ih hrest, Function.comp_def]

lemma openings_of_pass? (hg : g.foldlM pass? m = some m') (rest : Text) :
    openings m (g ++ rest) = openings m' rest := by
  induction g generalizing m with
  | nil =>
    obtain rfl := Option.some.inj hg
    rfl
  | cons c g ih =>
    obtain ⟨n, hc, hrest⟩ := foldlM_pass?_cons hg
    have hno : ¬(m = .plain ∧ c = '(' ∧ (g ++ rest).head? ≠ some '?') := by
      rintro ⟨rfl, rfl, -⟩
      simp [pass?] at hc
    rw [List.cons_append, openings, if_neg hno, after_of_pass? hc, ih hrest, List.nil_append]

/-- A text that leaves a scanner where it was, at any depth and whatever follows, and the groups
without a mark that open in it. -/
structure Scans (g : Text) (gs : List Text) : Prop where
  returns : ∀ d, readAll? ⟨.plain, d⟩ g = some ⟨.plain, d⟩
  closes : ∀ d rest,
    group? ⟨.plain, d + 1⟩ (g ++ rest) = (group? ⟨.plain, d + 1⟩ rest).map (g ++ ·)
  opens : ∀ rest, groups (g ++ rest) = gs.map some ++ groups rest

lemma Quiet.scans (hg : Quiet g) : Scans g [] where
  returns := readAll?_of_pass? hg
  closes := group?_of_pass? hg
  opens rest := by rw [groups, openings_of_pass? hg]; rfl

lemma scans_nil : Scans [] [] := Quiet.scans rfl

lemma Scans.append (hg : Scans g gs) (hh : Scans h hs) : Scans (g ++ h) (gs ++ hs) where
  returns d := by
    have hfirst := hg.returns d
    have hrest := hh.returns d
    rw [readAll?] at hfirst hrest ⊢
    rw [List.foldlM_append, hfirst]
    exact hrest
  closes d rest := by
    rw [List.append_assoc, hg.closes, hh.closes, Option.map_map]
    simp [Function.comp_def]
  opens rest := by
    rw [List.append_assoc, hg.opens, hh.opens, List.map_append, List.append_assoc]

lemma group?_open (d : ℕ) (t : Text) :
    group? ⟨.plain, d⟩ ('(' :: t) = (group? ⟨.plain, d + 1⟩ t).map ('(' :: ·) := by
  rw [group?, read?, if_pos ⟨rfl, rfl⟩]
  simp

lemma group?_close (d : ℕ) (t : Text) :
    group? ⟨.plain, d + 1⟩ (')' :: t) =
      if d = 0 then some [')'] else (group? ⟨.plain, d⟩ t).map (')' :: ·) := by
  rw [group?, read?, if_neg (by simp), if_pos ⟨rfl, rfl⟩]
  simp

lemma groups_open (t : Text) :
    groups ('(' :: t) =
      (if t.head? = some '?' then [] else [group? {} ('(' :: t)]) ++ groups t := by
  have hafter : ScanMode.plain.after '(' = .plain := rfl
  rw [groups, openings, hafter, List.map_append]
  split_ifs <;> simp_all [groups]

lemma groups_close (t : Text) : groups (')' :: t) = groups t := rfl

/-- Parentheses around a text make one more group, unless the text begins with a mark. -/
lemma Scans.parenthesized (hg : Scans g gs) :
    Scans ('(' :: (g ++ [')']))
      ((if g.head? = some '?' then [] else ['(' :: (g ++ [')'])]) ++ gs) where
  returns d := by
    have hbody := hg.returns (d + 1)
    rw [readAll?] at hbody ⊢
    rw [List.foldlM_cons, read?, if_pos ⟨rfl, rfl⟩]
    change List.foldlM _ _ (g ++ [')']) = _
    rw [List.foldlM_append, hbody]
    rfl
  closes d rest := by
    rw [List.cons_append, List.append_assoc, group?_open, hg.closes, List.singleton_append,
      group?_close, if_neg (Nat.succ_ne_zero d)]
    simp [Function.comp_def]
  opens rest := by
    have hgroup : group? {} ('(' :: (g ++ ')' :: rest)) = some ('(' :: (g ++ [')'])) := by
      rw [group?_open, hg.closes, group?_close, if_pos rfl]
      rfl
    have hhead : (g ++ ')' :: rest).head? = some '?' ↔ g.head? = some '?' := by
      cases g <;> simp
    rw [List.cons_append, List.append_assoc, List.singleton_append, groups_open, hgroup, hg.opens,
      groups_close, List.map_append, List.append_assoc]
    split_ifs <;> simp_all

end Scanner

end PatternAlgebra
