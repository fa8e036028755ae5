import PatternAlgebra.Proofs.Engine.Marks
import PatternAlgebra.Proofs.Engine.RowSearch
import PatternAlgebra.Proofs.Search.SubsequenceGrammar

/-! Outcomes of subsequences. Each has the characters of the text that is searched for, up to case, at
positions further and further right, and captures them one by one: the first where the search stands,
the last just in front of the end. In a single line there is an outcome for any such positions. -/
namespace PatternAlgebra

/-- Positions further and further right at which `t` has the characters of `s`, up to case. -/
structure Text.SpelledAt (s t : Text) (ps : List ℕ) : Prop where
  increasing : ps.Pairwise (· < ·)
  chars : List.Forall₂ (fun p c => ∃ d, t[p]? = some d ∧ caseFold d = caseFold c) ps s

namespace Text.SpelledAt

variable {s t : Text} {ps : List ℕ} {p : ℕ} {c : Char}

lemma nil : SpelledAt [] t [] := ⟨List.Pairwise.nil, List.Forall₂.nil⟩

lemma cons_iff : SpelledAt (c :: s) t (p :: ps) ↔
    (∃ d, t[p]? = some d ∧ caseFold d = caseFold c) ∧ (∀ q ∈ ps.head?, p < q) ∧
      s.SpelledAt t ps := by
  constructor
  · rintro ⟨hincreasing, hchars⟩
    obtain ⟨hfirst, hrest⟩ := List.pairwise_cons.mp hincreasing
    obtain ⟨hc, hchars⟩ := List.forall₂_cons.mp hchars
    exact ⟨hc, fun q hq => hfirst q (List.mem_of_mem_head? hq), hrest, hchars⟩
  · rintro ⟨hc, hfirst, hincreasing, hchars⟩
    refine ⟨?_, List.Forall₂.cons hc hchars⟩
    rw [← List.isChain_iff_pairwise] at hincreasing ⊢
    exact List.isChain_cons.mpr ⟨hfirst, hincreasing⟩

lemma length_eq (h : s.SpelledAt t ps) : ps.length = s.length := h.chars.length_eq

lemma ne_nil (h : s.SpelledAt t ps) (hs : s ≠ []) : ps ≠ [] := by
  rintro rfl
  exact hs (List.length_eq_zero_iff.mp h.length_eq.symm)

lemma lt_length (h : s.SpelledAt t ps) : ∀ p ∈ ps, p < t.length := by
  intro p hp
  obtain ⟨i, hi, rfl⟩ := List.mem_iff_getElem.mp hp
  obtain ⟨d, hget, -⟩ := h.chars.get hi (h.length_eq ▸ hi)
  exact (List.getElem?_eq_some_iff.mp hget).1

end Text.SpelledAt

/-- Characters in order, up to case, are those at some positions. -/
theorem Text.sublist_caseFold_iff (s t : Text) :
    (s.map caseFold).Sublist (t.map caseFold) ↔ ∃ ps, s.SpelledAt t ps := by
  constructor
  · intro h
    obtain ⟨is, heq, hincreasing⟩ := List.sublist_eq_map_getElem h
    refine ⟨is.map Fin.val, List.pairwise_map.mpr hincreasing, List.forall₂_map_left_iff.mpr ?_⟩
    have hfolded : List.Forall₂ (fun i c => caseFold c = (t.map caseFold)[i]) is s := by
      rw [← List.forall₂_eq_eq_eq, List.forall₂_map_left_iff, List.forall₂_map_right_iff] at heq
      exact heq.flip
    refine hfolded.imp fun i c hc => ?_
    have hlt : i.val < t.length := by simpa using i.isLt
    exact ⟨t[i.val], List.getElem?_eq_getElem hlt, by simpa using hc.symm⟩
  · rintro ⟨ps, hincreasing, hchars⟩
    -- the positions from `i` on spell a part of what is left from there
    have hdrop (i : ℕ) (hi : ∀ p ∈ ps.head?, i ≤ p) :
        (s.map caseFold).Sublist ((t.drop i).map caseFold) := by
      induction hchars generalizing i with
      | nil => exact List.nil_sublist _
      | @cons p c ps s hc _ ih =>
        obtain ⟨d, hget, hd⟩ := hc
        obtain ⟨hlt, rfl⟩ := List.getElem?_eq_some_iff.mp hget
        obtain ⟨hfirst, hrest⟩ := List.pairwise_cons.mp hincreasing
        have htail := ih hrest (p + 1) fun q hq => hfirst q (List.mem_of_mem_head? hq)
        have hle : i ≤ p := hi p rfl
        have hdrop := (List.drop_sublist_drop_left t hle).map caseFold
        rw [List.drop_eq_getElem_cons hlt, List.map_cons, hd] at hdrop
        exact (htail.cons_cons (caseFold c)).trans hdrop
    simpa using hdrop 0 fun p _ => Nat.zero_le p

namespace Engine

open Relation

variable {s t : Text} {origin n : ℕ} {c : Char} {p q : Point} {ss : List Point} {ps : List ℕ}

/-- A point behind the characters of a text, which were captured one by one at some positions from
another point on. Of the groups, `n` came before. -/
structure Point.Captures (t s : Text) (n : ℕ) (q : Point) (ps : List ℕ) (p : Point) : Prop where
  spelled : s.SpelledAt t ps
  first : ps.head? = some q.pos
  last : ps.getLast?.map (· + 1) = some p.pos
  captured : (List.range' (n + 1) s.length).map (p.groups.lookup ·) = ps.map fun i => some ⟨i, i + 1⟩
  kept : ∀ m ≤ n, p.groups.lookup m = q.groups.lookup m

namespace Context

lemma outcomes_row_cons (ctx : Context) (r : Regular) (rs : List Regular) (ss : List Point) :
    ctx.outcomes (.row (r :: rs)) ss = ctx.outcomes (.row rs) (ctx.outcomes r ss) := by
  cases rs <;> rfl

lemma mem_outcomes_letter :
    p ∈ (ofText t origin).outcomes (Link.letter n c).regular ss ↔
      ∃ q ∈ ss, (∃ d, t[q.pos]? = some d ∧ caseFold d = caseFold c) ∧
        p = ⟨q.pos + 1, (n, ⟨q.pos, q.pos + 1⟩) :: q.groups.filter (·.1 != n), q.opened⟩ := by
  have htakes (i j : ℕ) : (Link.set c).Takes t i j ↔
      (∃ d, t[i]? = some d ∧ caseFold d = caseFold c) ∧ j = i + 1 := by
    simp only [CharSet.Takes, Link.contains_set]
    constructor
    · rintro ⟨d, hget, hd, rfl⟩
      exact ⟨⟨d, hget, hd⟩, rfl⟩
    · rintro ⟨⟨d, hget, hd⟩, rfl⟩
      exact ⟨d, hget, hd, rfl⟩
  simp only [Link.regular, outcomes, List.mem_map, List.mem_filterMap, Option.map_eq_some_iff,
    advance?_eq_some_iff, htakes]
  constructor
  · rintro ⟨_, ⟨_, ⟨q, hq, rfl⟩, _, ⟨hc, rfl⟩, rfl⟩, rfl⟩
    exact ⟨q, hq, hc, rfl⟩
  · rintro ⟨q, hq, hc, rfl⟩
    exact ⟨_, ⟨_, ⟨q, hq, rfl⟩, _, ⟨hc, rfl⟩, rfl⟩, rfl⟩

lemma exists_of_mem_outcomes_gap {ctx : Context} (hp : p ∈ ctx.outcomes Link.gap.regular ss) :
    ∃ q ∈ ss, q.pos ≤ p.pos ∧ q.moveTo p.pos = p :=
  exists_of_mem_unboundedRuns hp

lemma outcomes_links_cons (ctx : Context) (n : ℕ) (c : Char) (hs : s ≠ []) (ss : List Point) :
    ctx.outcomes (.row ((links n (c :: s)).map Link.regular)) ss =
      ctx.outcomes (.row ((links (n + 1) s).map Link.regular))
        (ctx.outcomes Link.gap.regular (ctx.outcomes (Link.letter (n + 1) c).regular ss)) := by
  rw [links_cons n c hs, List.map_cons, List.map_cons, outcomes_row_cons, outcomes_row_cons]

/-- Every outcome captures the characters one by one. -/
theorem exists_captures (hs : s ≠ [])
    (hp : p ∈ (ofText t origin).outcomes (.row ((links n s).map Link.regular)) ss) :
    ∃ q ∈ ss, ∃ ps, q.Captures t s n ps p := by
  induction s generalizing n ss with
  | nil => contradiction
  | cons c s ih =>
    -- what comes behind a letter is that letter's capture on top of what was there
    have hletter (m : ℕ) (q : Point) : List.lookup m
        ((n + 1, (⟨q.pos, q.pos + 1⟩ : Span)) :: q.groups.filter (·.1 != n + 1)) =
          if m = n + 1 then some ⟨q.pos, q.pos + 1⟩ else q.groups.lookup m := by
      rw [State.lookup_cons_eq_ite, State.lookup_filter_ne]
      split_ifs <;> rfl
    by_cases hrest : s = []
    · subst hrest
      obtain ⟨q, hq, hc, rfl⟩ := mem_outcomes_letter.mp hp
      refine ⟨q, hq, [q.pos], ?_, rfl, rfl, ?_, fun m hm => ?_⟩
      · exact Text.SpelledAt.cons_iff.mpr ⟨hc, nofun, .nil⟩
      · simp [hletter]
      · rw [hletter, if_neg (by omega)]
    · rw [outcomes_links_cons _ n c hrest] at hp
      obtain ⟨v, hv, ps, hcaptures⟩ := ih hrest hp
      obtain ⟨u, hu, hle, hmoved⟩ := exists_of_mem_outcomes_gap hv
      have hgroups : v.groups = u.groups := hmoved ▸ rfl
      obtain ⟨q, hq, hc, rfl⟩ := mem_outcomes_letter.mp hu
      have hfirst : ∀ i ∈ ps.head?, q.pos < i := by
        intro i hi
        obtain rfl : v.pos = i := Option.some.inj (hcaptures.first.symm.trans hi)
        exact hle
      have hkept (m : ℕ) (hm : m ≤ n + 1) : p.groups.lookup m =
          if m = n + 1 then some ⟨q.pos, q.pos + 1⟩ else q.groups.lookup m := by
        rw [hcaptures.kept m hm, hgroups, hletter]
      obtain ⟨i, hi, -⟩ := Option.map_eq_some_iff.mp hcaptures.last
      refine ⟨q, hq, q.pos :: ps, ?_, rfl, ?_, ?_, fun m hm => ?_⟩
      · exact Text.SpelledAt.cons_iff.mpr ⟨hc, hfirst, hcaptures.spelled⟩
      · rw [← hcaptures.last, List.getLast?_cons, hi, Option.getD_some]
      · rw [List.length_cons, List.range'_succ, List.map_cons, List.map_cons, hcaptures.captured,
          hkept (n + 1) le_rfl, if_pos rfl]
      · rw [hkept m (by omega), if_neg (by omega)]

/-- In a single line anything may stand between two characters. -/
lemma run_any (ht : '\n' ∉ t) {i j : ℕ} (hle : i ≤ j) (hj : j ≤ t.length) :
    ReflTransGen (Atom.any.set.Takes t) i j := by
  induction j, hle using Nat.le_induction with
  | base => exact .refl
  | succ j hle ih =>
    have hlt : j < t.length := hj
    have hne : t[j] ≠ '\n' := ne_of_mem_of_not_mem (List.getElem_mem hlt) ht
    have hany : Atom.any.set.contains t[j] = true := by simp [Atom.set, CharSet.contains, hne]
    exact (ih hlt.le).tail ⟨t[j], List.getElem?_eq_getElem hlt, hany, rfl⟩

/-- In a single line there is an outcome wherever the characters begin. -/
theorem outcomes_ne_nil (origin n : ℕ) (ht : '\n' ∉ t) (h : s.SpelledAt t ps) (hq : q ∈ ss)
    (hfirst : ps.head? = some q.pos) :
    (ofText t origin).outcomes (.row ((links n s).map Link.regular)) ss ≠ [] := by
  induction s generalizing n ss ps q with
  | nil =>
    obtain rfl := List.forall₂_nil_right_iff.mp h.chars
    contradiction
  | cons c s ih =>
    obtain ⟨i, ps, rfl⟩ := List.exists_cons_of_ne_nil (h.ne_nil (List.cons_ne_nil c s))
    obtain rfl : i = q.pos := Option.some.inj hfirst
    obtain ⟨hc, hnext, hspelled⟩ := Text.SpelledAt.cons_iff.mp h
    have hletter : ⟨q.pos + 1, _, q.opened⟩ ∈
        (ofText t origin).outcomes (Link.letter (n + 1) c).regular ss :=
      mem_outcomes_letter.mpr ⟨q, hq, hc, rfl⟩
    cases s with
    | nil => exact List.ne_nil_of_mem hletter
    | cons e s =>
      obtain ⟨j, ps, rfl⟩ := List.exists_cons_of_ne_nil (hspelled.ne_nil (List.cons_ne_nil e s))
      obtain ⟨⟨d, hget, -⟩, -, -⟩ := Text.SpelledAt.cons_iff.mp hspelled
      have hrun := run_any ht (hnext j rfl) (List.getElem?_eq_some_iff.mp hget).1.le
      obtain ⟨v, hv, rfl⟩ := List.mem_map.mp
        ((mem_outcomes_item origin (.run .any) _).mpr ⟨_, hletter, hrun⟩)
      rw [outcomes_links_cons _ n c (List.cons_ne_nil e s)]
      exact ih (n + 1) hspelled hv rfl

end Context

/-! ### Searches -/

namespace Program

/-- A match captures the characters one by one, from its start to its end. -/
theorem exists_spelledAt_of_found (hs : s ≠ []) {m : Match Span}
    (hm : (subsequenceProgram s).search t.toArray origin = .found m) :
    ∃ ps, s.SpelledAt t ps ∧ ps.head? = some m.whole.start ∧
      ps.getLast?.map (· + 1) = some m.whole.stop ∧
      m.groups = ps.map fun i => some ⟨i, i + 1⟩ := by
  obtain ⟨i, p, -, hp, rfl⟩ := findRegular_found hm
  have hmem : p ∈ (Context.ofText t origin).outcomes (subsequenceRegular s) [{ pos := i }] :=
    List.mem_of_mem_head? hp
  obtain ⟨q, hq, ps, hcaptures⟩ := Context.exists_captures hs hmem
  obtain rfl := List.mem_singleton.mp hq
  exact ⟨ps, hcaptures.spelled, hcaptures.first, hcaptures.last, hcaptures.captured⟩

/-- In a single line a search from the start finds a match just if the characters occur in order. -/
theorem exists_found_iff (hs : s ≠ []) (ht : '\n' ∉ t) :
    (∃ m, (subsequenceProgram s).search t.toArray 0 = .found m) ↔ ∃ ps, s.SpelledAt t ps := by
  constructor
  · rintro ⟨m, hm⟩
    obtain ⟨ps, hspelled, -⟩ := exists_spelledAt_of_found hs hm
    exact ⟨ps, hspelled⟩
  · rintro ⟨ps, hspelled⟩
    rcases (subsequenceProgram s).findRegular_cases (Context.ofText t 0) (subsequenceRegular s)
      (t.toArray.size + 1 - 0) 0 with ⟨hnone, -⟩ | ⟨k, p, -, -, -, -, hfound⟩
    · obtain ⟨i, ps, rfl⟩ := List.exists_cons_of_ne_nil (hspelled.ne_nil hs)
      have hlt := hspelled.lt_length i List.mem_cons_self
      have hfirst := hnone i (Nat.zero_le i) (by rw [List.size_toArray]; omega)
      have hsome := Context.outcomes_ne_nil 0 0 ht hspelled
        (List.mem_singleton_self { pos := i }) rfl
      exact absurd (List.head?_eq_none_iff.mp hfirst) hsome
    · exact ⟨_, hfound⟩

end Program

end Engine

end PatternAlgebra
