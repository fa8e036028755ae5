import PatternAlgebra.Proofs.Engine.Row
import PatternAlgebra.Engine.Search
import PatternAlgebra.Proofs.Engine.Forward

/-! Searching for rows. The positions to which a row of items leads are those at which its matches
end: an atom leads over one of its members, a run over any number of them, and an assertion stays
where it holds. A search finds the first position from which the row leads anywhere. -/
namespace PatternAlgebra

/-- Exactly one of the characters next to a position, as far as there are any, is a word
character. -/
def Text.IsWordBoundary (t : Text) (i : ℕ) : Prop :=
  ((t.take i).getLast?.any isWordChar) ≠ ((t.drop i).head?.any isWordChar)

namespace Engine

open Relation

variable {t : Text} {set : CharSet} {origin i j k : ℕ}

/-- Whether the character behind a position is a member of a set, and `j` is behind that. -/
def CharSet.Takes (set : CharSet) (t : Text) (i j : ℕ) : Prop :=
  ∃ c, t[i]? = some c ∧ set.contains c = true ∧ j = i + 1

lemma CharSet.Takes.eq_succ (h : set.Takes t i j) : j = i + 1 := h.choose_spec.2.2

lemma CharSet.Takes.lt_length (h : set.Takes t i j) : i < t.length := by
  obtain ⟨c, hc, -⟩ := h
  exact (List.getElem?_eq_some_iff.mp hc).1

lemma CharSet.Takes.run_iff (h : set.Takes t i k) :
    ReflTransGen (set.Takes t) i j ↔ j = i ∨ ReflTransGen (set.Takes t) k j := by
  rw [ReflTransGen.cases_head_iff, eq_comm]
  refine or_congr_right ⟨?_, fun hrun => ⟨k, h, hrun⟩⟩
  rintro ⟨k', h', hrun⟩
  rwa [h.eq_succ, ← h'.eq_succ]

lemma CharSet.run_iff_of_not_takes (h : ∀ k, ¬set.Takes t i k) :
    ReflTransGen (set.Takes t) i j ↔ j = i := by
  rw [ReflTransGen.cases_head_iff, eq_comm]
  exact or_iff_left fun ⟨k, hk, _⟩ => h k hk

namespace Item

/-- Whether an item leads from one position of a text to another. -/
def Leads (t : Text) : Item → ℕ → ℕ → Prop
  | one a, i, j => a.set.Takes t i j
  | run a, i, j => ReflTransGen (a.set.Takes t) i j
  | start, i, j => i = 0 ∧ j = i
  | stop, i, j => i = t.length ∧ j = i
  | boundary, i, j => (i ≤ t.length ∧ t.IsWordBoundary i) ∧ j = i

/-- Whether items in a row do. -/
def RowLeads (t : Text) : List Item → ℕ → ℕ → Prop
  | [], i, j => j = i
  | x :: xs, i, j => ∃ k, x.Leads t i k ∧ RowLeads t xs k j

lemma rowLeads_append (xs ys : List Item) :
    RowLeads t (xs ++ ys) i j ↔ ∃ k, RowLeads t xs i k ∧ RowLeads t ys k j := by
  induction xs generalizing i with
  | nil => simp [RowLeads]
  | cons x xs ih =>
    simp only [List.cons_append, RowLeads, ih]
    constructor
    · rintro ⟨m, hx, k, hxs, hys⟩
      exact ⟨k, ⟨m, hx, hxs⟩, hys⟩
    · rintro ⟨k, ⟨m, hx, hxs⟩, hys⟩
      exact ⟨m, hx, k, hxs, hys⟩

lemma Leads.le_length {x : Item} (h : x.Leads t i j) (hi : i ≤ t.length) : j ≤ t.length := by
  cases x with
  | one a =>
    have hlt := h.lt_length
    rwa [h.eq_succ]
  | run a =>
    rcases ReflTransGen.cases_tail h with rfl | ⟨k, -, hk⟩
    · exact hi
    · have hlt := hk.lt_length
      rwa [hk.eq_succ]
  | _ => exact h.2.trans_le hi

lemma RowLeads.le_length {xs : List Item} (h : RowLeads t xs i j) (hi : i ≤ t.length) :
    j ≤ t.length := by
  induction xs generalizing i with
  | nil => exact h.trans_le hi
  | cons x xs ih =>
    obtain ⟨k, hk, hrest⟩ := h
    exact ih hrest (hk.le_length hi)

/-- Whether an item can lead from one position to several. -/
def isRun : Item → Bool
  | run _ => true
  | _ => false

end Item

namespace Context

/-- A search in a text, which began at a position. -/
def ofText (t : Text) (origin : ℕ) : Context := ⟨t.toArray, origin⟩

lemma advance?_eq_some_iff : (ofText t origin).advance? set i = some j ↔ set.Takes t i j := by
  have hget : (ofText t origin).text[i]? = t[i]? := List.getElem?_toArray
  unfold advance? CharSet.Takes
  rw [hget]
  cases t[i]? with
  | none => simp
  | some c =>
    by_cases hc : set.contains c = true
    · simp [hc, eq_comm (a := j)]
    · simp [hc]

lemma advance?_eq_none_iff :
    (ofText t origin).advance? set i = none ↔ ∀ j, ¬set.Takes t i j := by
  rw [Option.eq_none_iff_forall_ne_some]
  exact forall_congr' fun j => not_congr advance?_eq_some_iff

/-- Positions that a run does not leave. -/
def Closed (t : Text) (set : CharSet) (seen : Std.HashSet ℕ) : Prop :=
  ∀ i ∈ seen, ∀ j, set.Takes t i j → j ∈ seen

lemma Closed.mem_of_run {seen : Std.HashSet ℕ} (h : Closed t set seen) (hi : i ∈ seen)
    (hrun : ReflTransGen (set.Takes t) i j) : j ∈ seen := by
  induction hrun with
  | refl => exact hi
  | tail _ htakes ih => exact h _ ih _ htakes

lemma stretch_of_mem {seen : Std.HashSet ℕ} (hi : i ∈ seen) (room : ℕ) :
    (ofText t origin).stretch set seen room i = [] := by
  unfold stretch
  simp [hi]

lemma stretch_of_takes {seen : Std.HashSet ℕ} (hi : i ∉ seen) (h : set.Takes t i j) (room : ℕ) :
    (ofText t origin).stretch set seen (room + 1) i =
      i :: (ofText t origin).stretch set seen room j := by
  have hadvance : (ofText t origin).advance? set i = some j := advance?_eq_some_iff.mpr h
  rw [stretch.eq_def]
  simp [hi, hadvance]

lemma stretch_of_not_takes {seen : Std.HashSet ℕ} (hi : i ∉ seen) (h : ∀ j, ¬set.Takes t i j)
    (room : ℕ) : (ofText t origin).stretch set seen room i = [i] := by
  have hadvance : (ofText t origin).advance? set i = none := advance?_eq_none_iff.mpr h
  unfold stretch
  simp [hi, hadvance]

/-- A stretch ends with the run, or where what follows has been seen. -/
lemma mem_stretch (origin : ℕ) {seen : Std.HashSet ℕ} (h : Closed t set seen) {room : ℕ}
    (hroom : t.length ≤ i + room) :
    j ∈ (ofText t origin).stretch set seen room i ∨ j ∈ seen ↔
      ReflTransGen (set.Takes t) i j ∨ j ∈ seen := by
  induction room generalizing i with
  | zero =>
    by_cases hi : i ∈ seen
    · rw [stretch_of_mem hi]
      exact or_congr_left' fun hj => ⟨nofun, fun hrun => absurd (h.mem_of_run hi hrun) hj⟩
    · have hnone : ∀ k, ¬set.Takes t i k := fun k hk => by
        have hlt := hk.lt_length
        omega
      rw [stretch_of_not_takes hi hnone, CharSet.run_iff_of_not_takes hnone, List.mem_singleton]
  | succ room ih =>
    by_cases hi : i ∈ seen
    · rw [stretch_of_mem hi]
      exact or_congr_left' fun hj => ⟨nofun, fun hrun => absurd (h.mem_of_run hi hrun) hj⟩
    · by_cases htakes : ∃ k, set.Takes t i k
      · obtain ⟨k, hk⟩ := htakes
        have hsucc := hk.eq_succ
        rw [stretch_of_takes hi hk, List.mem_cons, hk.run_iff, or_assoc, ih (by omega), or_assoc]
      · have hnone := not_exists.mp htakes
        rw [stretch_of_not_takes hi hnone, CharSet.run_iff_of_not_takes hnone, List.mem_singleton]

lemma mem_runFrom (origin : ℕ) {seen : Std.HashSet ℕ} (h : Closed t set seen) (greedy : Bool) :
    j ∈ (ofText t origin).runFrom set 0 (t.length - i) greedy seen i ∨ j ∈ seen ↔
      ReflTransGen (set.Takes t) i j ∨ j ∈ seen := by
  have hroom : t.length ≤ i + (t.length - i) := by omega
  rw [← mem_stretch origin h hroom, runFrom, advanceBy?]
  cases greedy <;> simp

lemma mem_insertMany {seen : Std.HashSet ℕ} (ends : List ℕ) :
    j ∈ seen.insertMany ends ↔ j ∈ ends ∨ j ∈ seen := by
  rw [Std.HashSet.mem_insertMany_list, List.contains_iff_mem, or_comm]

lemma map_pos_moveTo (s : Point) (ends : List ℕ) : (ends.map s.moveTo).map (·.pos) = ends := by
  rw [List.map_map]
  exact List.map_id ends

/-- Runs from points in turn end where runs from any of them do, but for what has been seen. -/
lemma mem_unboundedRuns (origin : ℕ) {seen : Std.HashSet ℕ} (h : Closed t set seen) (greedy : Bool)
    (ss : List Point) :
    j ∈ ((ofText t origin).unboundedRuns set 0 greedy seen ss).map (·.pos) ∨ j ∈ seen ↔
      (∃ s ∈ ss, ReflTransGen (set.Takes t) s.pos j) ∨ j ∈ seen := by
  induction ss generalizing seen with
  | nil => simp [unboundedRuns]
  | cons s ss ih =>
    have hends (j : ℕ) := mem_runFrom (i := s.pos) (j := j) origin h greedy
    have hclosed : Closed t set (seen.insertMany
        ((ofText t origin).runFrom set 0 (t.length - s.pos) greedy seen s.pos)) := by
      intro j hj k hk
      rw [mem_insertMany, hends] at hj ⊢
      exact hj.imp (·.tail hk) (h j · k hk)
    have hrest := ih hclosed
    rw [mem_insertMany] at hrest
    have hsize : (ofText t origin).text.size = t.length := List.size_toArray
    rw [unboundedRuns, hsize, List.map_append, map_pos_moveTo, List.mem_append,
      List.exists_mem_cons_iff]
    rw [or_assoc, or_left_comm, hrest, hends, or_left_comm, ← or_assoc]

lemma mem_outcomes_look (a : Assertion) (ss : List Point) :
    j ∈ ((ofText t origin).outcomes (.look a) ss).map (·.pos) ↔
      ∃ s ∈ ss, (ofText t origin).holds s.pos a = true ∧ j = s.pos := by
  simp only [outcomes, List.mem_map, List.mem_filter]
  exact exists_congr fun s => by rw [and_assoc, eq_comm (b := j)]

lemma holds_textStart : (ofText t origin).holds i .textStart = true ↔ i = 0 := beq_iff_eq

lemma holds_textEnd : (ofText t origin).holds i .textEnd = true ↔ i = t.length := beq_iff_eq

lemma holds_wordBoundary :
    (ofText t origin).holds i .wordBoundary = true ↔ i ≤ t.length ∧ t.IsWordBoundary i := by
  have hbefore : (ofText t origin).wordBefore i = (i != 0 && t[i - 1]?.any isWordChar) := by
    simp [wordBefore, ofText]
  have hafter : (ofText t origin).wordAfter i = t[i]?.any isWordChar := by
    simp [wordAfter, ofText]
  rw [holds, hbefore, hafter, Text.IsWordBoundary, List.head?_drop, List.getLast?_take, bne_iff_ne]
  rcases Nat.lt_or_ge t.length i with hlt | hle
  · have hnone : t[i - 1]? = none := List.getElem?_eq_none (by omega)
    have hgap : t[i]? = none := List.getElem?_eq_none hlt.le
    simp [hnone, hgap, hlt]
  · rcases Nat.eq_zero_or_pos i with rfl | hpos
    · simp
    · have hlt : i - 1 < t.length := by omega
      have hprevious : t[i - 1]? = some t[i - 1] := List.getElem?_eq_getElem hlt
      have hne : (i != 0) = true := bne_iff_ne.mpr hpos.ne'
      simp [hprevious, hle, hpos.ne', hne]

/-- The outcomes of an item are the positions to which it leads. -/
lemma mem_outcomes_item (origin : ℕ) (x : Item) (ss : List Point) :
    j ∈ ((ofText t origin).outcomes x.regular ss).map (·.pos) ↔
      ∃ s ∈ ss, x.Leads t s.pos j := by
  cases x with
  | one a =>
    simp only [Item.regular, outcomes, List.mem_map, List.mem_filterMap, Option.map_eq_some_iff,
      advance?_eq_some_iff, Item.Leads]
    constructor
    · rintro ⟨_, ⟨s, hs, k, hk, rfl⟩, rfl⟩
      exact ⟨s, hs, hk⟩
    · rintro ⟨s, hs, hj⟩
      exact ⟨s.moveTo j, ⟨s, hs, j, hj, rfl⟩, rfl⟩
  | run a =>
    have hclosed : Closed t a.set ∅ := fun i hi => absurd hi Std.HashSet.not_mem_empty
    have hruns := mem_unboundedRuns (j := j) origin hclosed true ss
    simp only [Std.HashSet.not_mem_empty, or_false] at hruns
    exact hruns
  | start => simp only [Item.regular, mem_outcomes_look, holds_textStart, Item.Leads]
  | stop => simp only [Item.regular, mem_outcomes_look, holds_textEnd, Item.Leads]
  | boundary =>
    simp only [Item.regular, mem_outcomes_look, holds_wordBoundary, Item.Leads]

lemma outcomes_rowRegular_cons (ctx : Context) (x : Item) (xs : List Item) (ss : List Point) :
    ctx.outcomes (Item.rowRegular (x :: xs)) ss =
      ctx.outcomes (Item.rowRegular xs) (ctx.outcomes x.regular ss) := by
  cases xs <;> rfl

/-- The outcomes of a row are the positions to which it leads. -/
theorem mem_outcomes_row (origin : ℕ) (xs : List Item) (ss : List Point) :
    j ∈ ((ofText t origin).outcomes (Item.rowRegular xs) ss).map (·.pos) ↔
      ∃ s ∈ ss, Item.RowLeads t xs s.pos j := by
  induction xs generalizing ss with
  | nil =>
    simp only [Item.rowRegular, outcomes, List.mem_map, Item.RowLeads]
    exact exists_congr fun s => and_congr_right fun _ => eq_comm
  | cons x xs ih =>
    have hitem (k : ℕ) := mem_outcomes_item (t := t) (j := k) origin x ss
    rw [outcomes_rowRegular_cons, ih]
    constructor
    · rintro ⟨p, hp, hrow⟩
      obtain ⟨s, hs, hlead⟩ := (hitem p.pos).mp (List.mem_map_of_mem hp)
      exact ⟨s, hs, p.pos, hlead, hrow⟩
    · rintro ⟨s, hs, k, hlead, hrow⟩
      obtain ⟨p, hp, rfl⟩ := List.mem_map.mp ((hitem k).mpr ⟨s, hs, hlead⟩)
      exact ⟨p, hp, hrow⟩

/-! ### The first outcome -/

/-- Points from right to left. -/
def Descends (ss : List Point) : Prop := ss.Pairwise fun p q => q.pos < p.pos

lemma pairwise_stretch (ctx : Context) (set : CharSet) (seen : Std.HashSet ℕ) (room i : ℕ) :
    (ctx.stretch set seen room i).Pairwise (· < ·) := by
  induction room generalizing i with
  | zero =>
    unfold stretch
    split_ifs <;> simp
  | succ room ih =>
    unfold stretch
    split_ifs
    · exact List.Pairwise.nil
    · cases hnext : ctx.advance? set i with
      | none => exact List.pairwise_singleton _ _
      | some next =>
        have hlt := lt_of_advance? hnext
        exact List.pairwise_cons.mpr ⟨fun j hj => hlt.trans_le (le_of_mem_stretch hj), ih next⟩

/-- A run from a single point reaches as far as it can first. -/
lemma descends_run (ctx : Context) (set : CharSet) (p : Point) :
    Descends (ctx.outcomes (.run set 0 none true) [p]) := by
  have hends := ctx.pairwise_stretch set ∅ (ctx.text.size - p.pos) p.pos
  rw [outcomes, unboundedRuns, unboundedRuns, List.append_nil]
  exact List.pairwise_map.mpr (List.pairwise_reverse.mpr hends)

lemma Descends.outcomes_item {ss : List Point} (h : Descends ss) {x : Item}
    (hx : x.isRun = false) : Descends ((ofText t origin).outcomes x.regular ss) := by
  cases x with
  | one a =>
    refine h.filterMap _ fun p q hlt p' hp q' hq => ?_
    obtain ⟨i, hi, rfl⟩ := Option.map_eq_some_iff.mp hp
    obtain ⟨j, hj, rfl⟩ := Option.map_eq_some_iff.mp hq
    have hfirst := (advance?_eq_some_iff.mp hi).eq_succ
    have hsecond := (advance?_eq_some_iff.mp hj).eq_succ
    simp only [Point.moveTo]
    omega
  | run a => contradiction
  | _ => exact h.filter _

lemma Descends.outcomes_row {xs : List Item} (hxs : ∀ x ∈ xs, x.isRun = false) {ss : List Point}
    (h : Descends ss) : Descends ((ofText t origin).outcomes (Item.rowRegular xs) ss) := by
  induction xs generalizing ss with
  | nil => exact h
  | cons x xs ih =>
    obtain ⟨hx, hxs⟩ := List.forall_mem_cons.mp hxs
    rw [outcomes_rowRegular_cons]
    exact ih hxs (h.outcomes_item hx)

/-- There is a first outcome just if the row leads anywhere, and the row leads to it. -/
lemma first?_row (t : Text) (origin : ℕ) (xs : List Item) (i : ℕ) :
    ((∀ j, ¬Item.RowLeads t xs i j) ∧
        (ofText t origin).first? (Item.rowRegular xs) i = none) ∨
      ∃ p, Item.RowLeads t xs i p.pos ∧
        (ofText t origin).first? (Item.rowRegular xs) i = some p := by
  have hmem (j : ℕ) := mem_outcomes_row (t := t) (j := j) origin xs [{ pos := i }]
  rw [first?]
  cases houtcomes : (ofText t origin).outcomes (Item.rowRegular xs) [{ pos := i }] with
  | nil => exact Or.inl ⟨by simpa [houtcomes] using hmem, rfl⟩
  | cons p ps => exact Or.inr ⟨p, by simpa [houtcomes] using hmem p.pos, rfl⟩

/-- Where a run stands at the start of the text, the first outcome is the one furthest right. -/
lemma le_of_first?_run {a : Atom} {xs : List Item} (hxs : ∀ x ∈ xs, x.isRun = false) {p : Point}
    (h : (ofText t origin).first? (Item.rowRegular (.start :: .run a :: xs)) i = some p)
    (hj : Item.RowLeads t (.start :: .run a :: xs) i j) : j ≤ p.pos := by
  have hmem := (mem_outcomes_row origin _ [{ pos := i }]).mpr
    ⟨_, List.mem_singleton_self _, hj⟩
  obtain ⟨_, ⟨rfl, -⟩, -⟩ := hj
  have hdescends : Descends
      ((ofText t origin).outcomes (Item.rowRegular (.start :: .run a :: xs)) [{ pos := 0 }]) := by
    rw [outcomes_rowRegular_cons, outcomes_rowRegular_cons]
    exact (descends_run _ a.set { pos := 0 }).outcomes_row hxs
  rw [first?] at h
  obtain ⟨ps, hps⟩ := List.head?_eq_some_iff.mp h
  rw [hps] at hmem hdescends
  rcases List.mem_cons.mp hmem with rfl | hmem
  · exact le_rfl
  · obtain ⟨q, hq, rfl⟩ := List.mem_map.mp hmem
    exact ((List.pairwise_cons.mp hdescends).1 q hq).le

end Context

/-! ### Searches -/

/-- What a search finds out at a position and at all further ones it finds out from there on. -/
lemma forall_of_forall_succ {P Q : ℕ → Prop} (hi : Q i) (h : ∀ m, i + 1 ≤ m → P m → Q m) (m : ℕ)
    (hm : i ≤ m) (hp : P m) : Q m := by
  rcases hm.eq_or_lt with rfl | hlt
  · exact hi
  · exact h m hlt hp

namespace Program

/-- A search finds the first position at which there is an outcome. -/
lemma findRegular_cases (p : Program) (ctx : Context) (e : Regular) (count i : ℕ) :
    (∀ k, i ≤ k → k < i + count → ctx.first? e k = none) ∧
        p.findRegular ctx e count i = .missing ∨
      ∃ k point, i ≤ k ∧ k < i + count ∧ (∀ m, i ≤ m → m < k → ctx.first? e m = none) ∧
        ctx.first? e k = some point ∧
          p.findRegular ctx e count i = .found (p.matchOfPoint k point) := by
  induction count generalizing i with
  | zero => exact Or.inl ⟨fun k hk hlt => by omega, rfl⟩
  | succ count ih =>
    rw [findRegular]
    cases hi : ctx.first? e i with
    | some point => exact Or.inr ⟨i, point, le_rfl, by omega, fun m hm hlt => by omega, hi, rfl⟩
    | none =>
      rcases ih (i + 1) with ⟨hnone, hmissing⟩ | ⟨k, point, hk, hcount, hleast, hpoint, hfound⟩
      · refine Or.inl ⟨forall_of_forall_succ hi fun m hm hlt => ?_, hmissing⟩
        exact hnone m hm (by omega)
      · exact Or.inr ⟨k, point, by omega, by omega, forall_of_forall_succ hi hleast, hpoint, hfound⟩

end Program

namespace Item

/-- A search finds the first position from which the row leads anywhere. -/
theorem search_rowProgram (t : Text) (origin : ℕ) (xs : List Item) :
    (∀ i, origin ≤ i → i ≤ t.length → ∀ j, ¬RowLeads t xs i j) ∧
        (rowProgram xs).search t.toArray origin = .missing ∨
      ∃ i p, origin ≤ i ∧ i ≤ t.length ∧
        (∀ k, origin ≤ k → k < i → ∀ j, ¬RowLeads t xs k j) ∧ RowLeads t xs i p.pos ∧
        (Context.ofText t origin).first? (rowRegular xs) i = some p ∧
          (rowProgram xs).search t.toArray origin = .found ⟨⟨i, p.pos⟩, []⟩ := by
  have hnowhere {i : ℕ} (hi : (Context.ofText t origin).first? (rowRegular xs) i = none) :
      ∀ j, ¬RowLeads t xs i j := by
    rcases Context.first?_row t origin xs i with ⟨hnone, -⟩ | ⟨p, -, hp⟩
    · exact hnone
    · exact absurd (hi.symm.trans hp) (Option.some_ne_none p).symm
  have hsize : t.toArray.size = t.length := List.size_toArray
  rcases (rowProgram xs).findRegular_cases (Context.ofText t origin) (rowRegular xs)
    (t.toArray.size + 1 - origin) origin with
    ⟨hnone, hmissing⟩ | ⟨i, p, hle, hlt, hleast, hp, hfound⟩
  · exact Or.inl ⟨fun i hi hlength => hnowhere (hnone i hi (by omega)), hmissing⟩
  · refine Or.inr ⟨i, p, hle, by omega, fun k hk hlt => hnowhere (hleast k hk hlt), ?_, hp, hfound⟩
    rcases Context.first?_row t origin xs i with ⟨-, hnone⟩ | ⟨q, hq, hfirst⟩
    · exact absurd (hnone.symm.trans hp) (Option.some_ne_none p).symm
    · obtain rfl := Option.some.inj (hfirst.symm.trans hp)
      exact hq

/-! ### Plans -/

/-- A plan without runs goes on where the row leads, or fails without having fallen back. -/
lemma run_plan (origin : ℕ) {x : Item} (hx : x.isRun = false) (next : Next) (s : State)
    (choices retries : ℕ) :
    (∃ j, x.Leads t s.pos j ∧ (Context.ofText t origin).run x.plan next s choices retries =
        next { s with pos := j } choices retries) ∨
      (∀ j, ¬x.Leads t s.pos j) ∧
        (Context.ofText t origin).run x.plan next s choices retries = .failed choices retries := by
  have hcheck {a : Assertion} {P : Prop} (ha : (Context.ofText t origin).holds s.pos a = true ↔ P) :
      (∃ j, (P ∧ j = s.pos) ∧ (Context.ofText t origin).run (.check a) next s choices retries =
          next { s with pos := j } choices retries) ∨
        (∀ j, ¬(P ∧ j = s.pos)) ∧
          (Context.ofText t origin).run (.check a) next s choices retries =
            .failed choices retries := by
    rw [Context.run]
    by_cases hp : P
    · exact Or.inl ⟨s.pos, ⟨hp, rfl⟩, if_pos (ha.mpr hp)⟩
    · exact Or.inr ⟨fun j hj => hp hj.1, if_neg (mt ha.mp hp)⟩
  cases x with
  | one a =>
    rw [plan, Context.run]
    cases hadvance : (Context.ofText t origin).advance? a.set s.pos with
    | none => exact Or.inr ⟨Context.advance?_eq_none_iff.mp hadvance, rfl⟩
    | some j => exact Or.inl ⟨j, Context.advance?_eq_some_iff.mp hadvance, rfl⟩
  | run a => contradiction
  | start => exact hcheck Context.holds_textStart
  | stop => exact hcheck Context.holds_textEnd
  | boundary => exact hcheck Context.holds_wordBoundary

lemma Leads.unique {x : Item} (hx : x.isRun = false) (hj : x.Leads t i j) (hk : x.Leads t i k) :
    j = k := by
  cases x with
  | one a => exact hj.eq_succ.trans hk.eq_succ.symm
  | run a => contradiction
  | _ => exact hj.2.trans hk.2.symm

lemma run_rowPlan_cons (ctx : Context) (x : Item) (xs : List Item) (next : Next) :
    ctx.run (rowPlan (x :: xs)) next = ctx.run x.plan (ctx.run (rowPlan xs) next) := by
  cases xs <;> rfl

lemma run_rowPlan (origin : ℕ) {xs : List Item} (hxs : ∀ x ∈ xs, x.isRun = false) (next : Next)
    (s : State) (choices retries : ℕ) :
    (∃ j, RowLeads t xs s.pos j ∧
        (Context.ofText t origin).run (rowPlan xs) next s choices retries =
          next { s with pos := j } choices retries) ∨
      (∀ j, ¬RowLeads t xs s.pos j) ∧
        (Context.ofText t origin).run (rowPlan xs) next s choices retries =
          .failed choices retries := by
  induction xs generalizing s with
  | nil => exact Or.inl ⟨s.pos, rfl, rfl⟩
  | cons x xs ih =>
    obtain ⟨hx, hxs⟩ := List.forall_mem_cons.mp hxs
    rw [run_rowPlan_cons]
    rcases run_plan origin hx _ s choices retries with ⟨k, hk, hrun⟩ | ⟨hnone, hrun⟩
    · rw [hrun]
      refine (ih hxs { s with pos := k }).imp ?_ ?_
      · rintro ⟨j, hj, hrest⟩
        exact ⟨j, ⟨k, hk, hj⟩, hrest⟩
      · rintro ⟨hrest, hfailed⟩
        refine ⟨?_, hfailed⟩
        rintro j ⟨k', hk', hj⟩
        exact hrest j (hk.unique hx hk' ▸ hj)
    · refine Or.inr ⟨?_, hrun⟩
      rintro j ⟨k, hk, -⟩
      exact hnone k hk

/-- Without runs, beginning further right is the only choice that a search falls back on. So it has
done that `k` times when it comes to position `k`, and finds the first position from which the row
leads anywhere, unless it has given up before. -/
lemma findPlanned_row (t : Text) (origin count : ℕ) {xs : List Item}
    (hxs : ∀ x ∈ xs, x.isRun = false) (p : Program) {k : ℕ} (hk : k ≤ Run.retryLimit) :
    (∀ i, k ≤ i → i < k + count → i ≤ Run.retryLimit → ∀ j, ¬RowLeads t xs i j) ∧
        p.findPlanned (Context.ofText t origin) (rowPlan xs) count k k = .missing ∨
      ∃ i j, k ≤ i ∧ i < k + count ∧ i ≤ Run.retryLimit ∧
        (∀ m, k ≤ m → m < i → ∀ j, ¬RowLeads t xs m j) ∧ RowLeads t xs i j ∧
        p.findPlanned (Context.ofText t origin) (rowPlan xs) count k k =
          .found (p.matchOfState { pos := j, start := i }) := by
  induction count generalizing k with
  | zero => exact Or.inl ⟨fun i hi hlt => by omega, rfl⟩
  | succ count ih =>
    rw [Program.findPlanned]
    rcases run_rowPlan origin hxs (fun s _ _ => .matched s) { pos := k, start := k } 1 k
      with ⟨j, hj, hrun⟩ | ⟨hnone, hrun⟩
    · refine Or.inr ⟨k, j, le_rfl, by omega, hk, fun m hm hlt => by omega, hj, ?_⟩
      rw [hrun]
    · rw [hrun]
      simp only
      split_ifs with hretry
      · rcases ih hretry with ⟨hrest, hmissing⟩ | ⟨i, j, hi, hlt, hlimit, hleast, hj, hfound⟩
        · refine Or.inl ⟨forall_of_forall_succ (fun _ => hnone) fun m hm hlt => ?_, hmissing⟩
          exact hrest m hm (by omega)
        · refine Or.inr ⟨i, j, by omega, by omega, hlimit, ?_, hj, hfound⟩
          exact forall_of_forall_succ hnone hleast
      · refine Or.inl ⟨fun i hi hlt hlimit => ?_, rfl⟩
        obtain rfl : k = i := by omega
        exact hnone

end Item

end Engine

end PatternAlgebra
