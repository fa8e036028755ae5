import PatternAlgebra.Engine.Search
import PatternAlgebra.Proofs.Stream.Visit

/-! The stream of matches in a target: the gaps between them, the matches and their groups. A
selection takes the kinds it asks for and stops behind its last match. -/
namespace PatternAlgebra

open Fragment

namespace Selection

/-- What a selection leaves of the rest of a stream, of which `count` matches came before. -/
def restrict (selection : Selection) (count : ℕ) (fs : List (Fragment CharRange)) :
    List (Fragment CharRange) :=
  (match selection.limit with
    | none => fs
    | some limit => upToMatch (limit - count) fs).filter fun f => selection.allowsKind f.kind

/-- The number of matches that a selection counts, of a total of `count`. -/
def clip (selection : Selection) (count : ℕ) : ℕ :=
  match selection.limit with
  | none => count
  | some limit => min limit count

variable {selection : Selection} {count : ℕ}

@[simp] lemma restrict_nil : selection.restrict count [] = [] := by
  unfold restrict
  cases selection.limit <;> simp

lemma restrict_of_no_limit (h : selection.limit = none) (fs : List (Fragment CharRange)) :
    selection.restrict count fs = fs.filter fun f => selection.allowsKind f.kind := by
  simp [restrict, h]

lemma restrict_unmatched (h : selection.allows (count + 1)) (r : CharRange)
    (fs : List (Fragment CharRange)) :
    selection.restrict count (.unmatched r :: fs) =
      (if selection.allowsKind .unmatched then [.unmatched r] else []) ++
        selection.restrict count fs := by
  unfold restrict
  unfold allows at h
  cases hl : selection.limit with
  | none => by_cases hk : selection.allowsKind .unmatched <;> simp [kind, hk]
  | some n =>
    simp only [hl, decide_eq_true_eq] at h
    obtain ⟨k, hk⟩ := Nat.exists_eq_succ_of_ne_zero (show n - count ≠ 0 by omega)
    by_cases hu : selection.allowsKind .unmatched <;> simp [hk, upToMatch, kind, hu]

lemma restrict_matched (h : selection.allows (count + 1)) (r : CharRange)
    (fs : List (Fragment CharRange)) :
    selection.restrict count (.matched r :: fs) =
      (if selection.allowsKind .matched then [.matched r] else []) ++
        selection.restrict (count + 1) fs := by
  unfold restrict
  unfold allows at h
  cases hl : selection.limit with
  | none => by_cases hk : selection.allowsKind .matched <;> simp [kind, hk]
  | some n =>
    simp only [hl, decide_eq_true_eq] at h
    have hk : n - count = n - (count + 1) + 1 := by omega
    by_cases hu : selection.allowsKind .matched <;> simp [hk, upToMatch, kind, hu]

lemma restrict_groups {gs : List (Fragment CharRange)} (hg : ∀ f ∈ gs, f.kind = .group)
    (fs : List (Fragment CharRange)) :
    selection.restrict count (gs ++ fs) =
      (if selection.allowsKind .group then gs else []) ++ selection.restrict count fs := by
  have hf : (gs.filter fun f => selection.allowsKind f.kind) =
      if selection.allowsKind .group then gs else [] := by
    rw [List.filter_congr fun f hf => by rw [hg f hf]]
    split_ifs with hk <;> simp [hk]
  unfold restrict
  cases selection.limit with
  | none => simp [hf]
  | some n => simp [upToMatch_groups hg, hf]

lemma restrict_full (h : ¬selection.allows (count + 1)) {fs : List (Fragment CharRange)}
    (ho : OpensRegion fs) : selection.restrict count fs = [] := by
  unfold restrict
  unfold allows at h
  cases hl : selection.limit with
  | none => simp [hl] at h
  | some n =>
    simp only [hl, decide_eq_true_eq] at h
    have hz : n - count = 0 := by omega
    simp [hz, upToMatch_zero ho]

lemma mem_restrict {f : Fragment CharRange} {fs : List (Fragment CharRange)}
    (h : f ∈ selection.restrict count fs) : f ∈ fs ∧ selection.allowsKind f.kind := by
  unfold restrict at h
  obtain ⟨hmem, hkind⟩ := List.mem_filter.mp h
  refine ⟨?_, hkind⟩
  cases hl : selection.limit with
  | none => simpa [hl] using hmem
  | some n =>
    rw [hl] at hmem
    exact (upToMatch_isPrefix _ fs).subset hmem

lemma clip_of_not_allows {n : ℕ} (ha : selection.allows count) (h : ¬selection.allows (count + 1))
    (hn : count ≤ n) : selection.clip n = count := by
  unfold clip
  unfold allows at ha h
  cases hl : selection.limit with
  | none => simp [hl] at h
  | some k =>
    simp only [hl, decide_eq_true_eq] at ha h ⊢
    omega

lemma clip_of_allows (h : selection.allows count) : selection.clip count = count := by
  unfold clip
  unfold allows at h
  cases hl : selection.limit with
  | none => rfl
  | some k =>
    simp only [hl, decide_eq_true_eq] at h ⊢
    omega

@[simp] lemma clip_zero : selection.clip 0 = 0 := by
  unfold clip
  cases selection.limit <;> simp

lemma clip_of_full (h : ¬selection.allows 1) (n : ℕ) : selection.clip n = 0 := by
  unfold clip
  unfold allows at h
  cases hl : selection.limit with
  | none => simp [hl] at h
  | some k =>
    simp only [hl, decide_eq_true_eq] at h ⊢
    omega

@[simp] lemma restrict_everything (fs : List (Fragment CharRange)) :
    everything.restrict 0 fs = fs := by
  rw [restrict_of_no_limit rfl, List.filter_eq_self]
  intro f _
  cases f <;> rfl

@[simp] lemma allows_shallow (n : ℕ) : shallow.allows n = true := rfl

@[simp] lemma allows_matchesOnly (n : ℕ) : matchesOnly.allows n = true := rfl

@[simp] lemma allowsKind_shallow (k : FragmentKind) : shallow.allowsKind k = (k != .group) := by
  cases k <;> rfl

@[simp] lemma allowsKind_matchesOnly (k : FragmentKind) :
    matchesOnly.allowsKind k = (k == .matched) := by
  cases k <;> rfl

lemma restrict_shallow (count : ℕ) (fs : List (Fragment CharRange)) :
    shallow.restrict count fs = fs.filter (·.kind != .group) := by
  simp [restrict_of_no_limit (rfl : shallow.limit = none)]

lemma restrict_matchesOnly (count : ℕ) (fs : List (Fragment CharRange)) :
    matchesOnly.restrict count fs = fs.filter (·.kind == .matched) := by
  simp [restrict_of_no_limit (rfl : matchesOnly.limit = none)]

lemma allows_of_succ (h : selection.allows (count + 1)) : selection.allows count := by
  unfold allows at h ⊢
  cases hl : selection.limit with
  | none => rfl
  | some n =>
    simp only [hl, decide_eq_true_eq] at h ⊢
    omega

lemma allows_of_no_limit (h : selection.limit = none) (n : ℕ) : selection.allows n := by
  simp [allows, h]

end Selection

/-- The gap from the end of the last match to the start of the next one. -/
def gap (previous start : ℕ) : List (Fragment CharRange) :=
  if previous < start then [.unmatched (.ofBounds previous start)] else []

/-- The groups that took part in a match, the first of them having the number `id`. -/
def groupsFrom (id : ℕ) : List (Option CharRange) → List (Fragment CharRange)
  | [] => []
  | none :: groups => groupsFrom (id + 1) groups
  | some range :: groups => .group range id :: groupsFrom (id + 1) groups

/-- The rest of a stream, behind a match that ends at `previous`. -/
def layout (stop : ℕ) : (previous : ℕ) → List (Engine.Match CharRange) → List (Fragment CharRange)
  | previous, [] => gap previous stop
  | previous, m :: ms =>
    gap previous m.whole.start ++
      .matched m.whole :: (groupsFrom 0 m.groups ++ layout stop m.whole.stop ms)

lemma kind_of_mem_gap {previous start : ℕ} : ∀ f ∈ gap previous start, f.kind = .unmatched := by
  unfold gap
  split_ifs <;> simp [kind]

lemma kind_of_mem_groupsFrom {id : ℕ} {groups : List (Option CharRange)} :
    ∀ f ∈ groupsFrom id groups, f.kind = .group := by
  induction groups generalizing id with
  | nil => simp [groupsFrom]
  | cons g groups ih =>
    cases g with
    | none => exact ih
    | some r =>
      intro f hf
      rcases List.mem_cons.mp hf with rfl | hf
      · rfl
      · exact ih f hf

lemma group_mem_groupsFrom_iff {id n : ℕ} {range : CharRange} {groups : List (Option CharRange)} :
    .group range n ∈ groupsFrom id groups ↔ ∃ k, n = id + k ∧ groups[k]? = some (some range) := by
  induction groups generalizing id with
  | nil => simp [groupsFrom]
  | cons g groups ih =>
    have hcons : .group range n ∈ groupsFrom id (g :: groups) ↔
        n = id ∧ g = some range ∨ .group range n ∈ groupsFrom (id + 1) groups := by
      cases g <;> simp [groupsFrom, and_comm, eq_comm]
    rw [hcons, ih]
    constructor
    · rintro (⟨rfl, rfl⟩ | ⟨k, rfl, hk⟩)
      · exact ⟨0, rfl, rfl⟩
      · exact ⟨k + 1, by omega, hk⟩
    · rintro ⟨k, rfl, hk⟩
      cases k with
      | zero => exact Or.inl ⟨rfl, Option.some.inj hk⟩
      | succ k => exact Or.inr ⟨k, by omega, hk⟩

/-- The groups of a stream are those of its matches. -/
lemma group_mem_layout_iff {stop previous n : ℕ} {range : CharRange}
    {ms : List (Engine.Match CharRange)} :
    .group range n ∈ layout stop previous ms ↔ ∃ m ∈ ms, m.groups[n]? = some (some range) := by
  have hgap (p q : ℕ) : .group range n ∉ gap p q := fun h => nomatch kind_of_mem_gap _ h
  induction ms generalizing previous with
  | nil => simpa [layout] using hgap previous stop
  | cons m ms ih =>
    have hfirst : .group range n ∈ groupsFrom 0 m.groups ↔ m.groups[n]? = some (some range) := by
      simp [group_mem_groupsFrom_iff]
    simp [layout, hgap, hfirst, ih]

lemma opensRegion_gap_append (previous start : ℕ) {fs : List (Fragment CharRange)}
    (h : OpensRegion fs) : OpensRegion (gap previous start ++ fs) := by
  unfold gap
  split_ifs
  · simp [OpensRegion, kind]
  · exact h

lemma opensRegion_layout (stop previous : ℕ) (ms : List (Engine.Match CharRange)) :
    OpensRegion (layout stop previous ms) := by
  cases ms with
  | nil =>
    have hnil : OpensRegion [] := by simp [OpensRegion]
    simpa [layout] using opensRegion_gap_append previous stop hnil
  | cons m ms => exact opensRegion_gap_append _ _ (by simp [OpensRegion, kind])

/-- What is not in the first part of a list is in the second one. -/
lemma exists_append_of_not_mem {α : Type} {xs ys before after : List α} {x : α}
    (h : xs ++ ys = before ++ x :: after) (hx : x ∉ xs) :
    ∃ middle, before = xs ++ middle ∧ ys = middle ++ x :: after := by
  rcases List.append_eq_append_iff.mp h with hsplit | ⟨front, rfl, hfront⟩
  · exact hsplit
  · cases front with
    | nil => exact ⟨[], by simp, hfront.symm⟩
    | cons y front =>
      obtain ⟨rfl, -⟩ := List.cons.inj hfront
      simp at hx

namespace Selection

variable {selection : Selection} {count : ℕ}

lemma restrict_gap (h : selection.allows (count + 1)) (previous start : ℕ)
    (fs : List (Fragment CharRange)) :
    selection.restrict count (gap previous start ++ fs) =
      (if selection.allowsKind .unmatched && previous < start then
        [.unmatched (.ofBounds previous start)] else []) ++ selection.restrict count fs := by
  unfold gap
  by_cases hlt : previous < start
  · simp [hlt, restrict_unmatched h]
  · simp [hlt]

lemma restrict_layout_nil (h : selection.allows (count + 1)) (stop previous : ℕ) :
    selection.restrict count (layout stop previous []) =
      if selection.allowsKind .unmatched && previous < stop then
        [.unmatched (.ofBounds previous stop)] else [] := by
  simpa [layout] using restrict_gap h previous stop []

lemma restrict_layout_cons (h : selection.allows (count + 1)) (stop previous : ℕ)
    (m : Engine.Match CharRange) (ms : List (Engine.Match CharRange)) :
    selection.restrict count (layout stop previous (m :: ms)) =
      (if selection.allowsKind .unmatched && previous < m.whole.start then
        [.unmatched (.ofBounds previous m.whole.start)] else []) ++
      ((if selection.allowsKind .matched then [.matched m.whole] else []) ++
      ((if selection.allowsKind .group then groupsFrom 0 m.groups else []) ++
        selection.restrict (count + 1) (layout stop m.whole.stop ms))) := by
  rw [layout, restrict_gap h, restrict_matched h, restrict_groups kind_of_mem_groupsFrom]

lemma restrict_layout_matchesOnly (count stop previous : ℕ) (ms : List (Engine.Match CharRange)) :
    matchesOnly.restrict count (layout stop previous ms) = (ms.map (·.whole)).map .matched := by
  induction ms generalizing count previous with
  | nil => simp [restrict_layout_nil (allows_matchesOnly _)]
  | cons m ms ih => simp [restrict_layout_cons (allows_matchesOnly _), ih]

lemma restrict_layout_full (h : ¬selection.allows (count + 1)) (stop previous : ℕ)
    (ms : List (Engine.Match CharRange)) :
    selection.restrict count (layout stop previous ms) = [] :=
  restrict_full h (opensRegion_layout stop previous ms)

lemma opensRegion_restrict_layout (hmatched : selection.allowsKind .matched) (count stop previous : ℕ)
    (ms : List (Engine.Match CharRange)) :
    OpensRegion (selection.restrict count (layout stop previous ms)) := by
  by_cases h : selection.allows (count + 1)
  · cases ms with
    | nil =>
      rw [restrict_layout_nil h]
      split_ifs <;> simp [OpensRegion, kind]
    | cons m ms =>
      rw [restrict_layout_cons h, if_pos hmatched]
      split_ifs <;> simp [OpensRegion, kind]
  · rw [restrict_layout_full h]
    simp [OpensRegion]

/-- Where matches and groups are asked for, each match is followed by all of its groups and by no other
ones. -/
theorem exists_groups_of_restrict_layout (hmatched : selection.allowsKind .matched)
    (hgroup : selection.allowsKind .group) {count stop previous : ℕ}
    {ms : List (Engine.Match CharRange)} {before after : List (Fragment CharRange)} {range : CharRange}
    (h : selection.restrict count (layout stop previous ms) = before ++ .matched range :: after) :
    ∃ m ∈ ms, m.whole = range ∧ ∃ rest, OpensRegion rest ∧ after = groupsFrom 0 m.groups ++ rest := by
  have hmem : .matched range ∈ selection.restrict count (layout stop previous ms) := by simp [h]
  induction ms generalizing count previous before with
  | nil =>
    obtain ⟨hlayout, -⟩ := mem_restrict hmem
    exact nomatch kind_of_mem_gap _ hlayout
  | cons m ms ih =>
    have hallows : selection.allows (count + 1) := by
      by_contra hfull
      simp [restrict_layout_full hfull] at hmem
    rw [restrict_layout_cons hallows, if_pos hmatched, if_pos hgroup] at h
    obtain ⟨before, rfl, hrest⟩ := exists_append_of_not_mem h (by split_ifs <;> simp)
    rw [List.singleton_append] at hrest
    cases before with
    | nil =>
      obtain ⟨hfirst, rfl⟩ := List.cons.inj hrest
      obtain rfl := Fragment.matched.inj hfirst
      exact ⟨m, List.mem_cons_self, rfl, _, opensRegion_restrict_layout hmatched _ _ _ _, rfl⟩
    | cons f before =>
      obtain ⟨-, hrest⟩ := List.cons.inj hrest
      obtain ⟨before, rfl, hnext⟩ := exists_append_of_not_mem hrest fun hmem =>
        nomatch kind_of_mem_groupsFrom _ hmem
      obtain ⟨q, hq, hfound⟩ := ih hnext (by simp [hnext])
      exact ⟨q, List.mem_cons_of_mem m hq, hfound⟩

end Selection

lemma matchCount_gap (previous start : ℕ) : matchCount (gap previous start) = 0 := by
  unfold gap
  split_ifs <;> rfl

lemma matchCount_groupsFrom (id : ℕ) (groups : List (Option CharRange)) :
    matchCount (groupsFrom id groups) = 0 := by
  simp only [matchCount, List.countP_eq_zero]
  intro f hf
  simp [kind_of_mem_groupsFrom f hf]

lemma matchCount_layout (stop previous : ℕ) (ms : List (Engine.Match CharRange)) :
    matchCount (layout stop previous ms) = ms.length := by
  induction ms generalizing previous with
  | nil => exact matchCount_gap previous stop
  | cons m ms ih =>
    have hc : matchCount (.matched m.whole :: (groupsFrom 0 m.groups ++ layout stop m.whole.stop ms)) =
        matchCount (groupsFrom 0 m.groups ++ layout stop m.whole.stop ms) + 1 := by
      simp [matchCount, kind]
    rw [layout, matchCount_append, matchCount_gap, hc, matchCount_append, matchCount_groupsFrom, ih,
      List.length_cons]
    omega

end PatternAlgebra
