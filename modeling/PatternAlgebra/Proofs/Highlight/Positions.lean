import PatternAlgebra.Proofs.Highlight.Paint
import PatternAlgebra.Proofs.Matcher.Union

/-! The paint of each position of a line. What is painted as a match or as a group lies in one, and
where the matches are in order nothing that lies in one is plain. -/
namespace PatternAlgebra.Paint

open Fragment

variable {line : Text} {fs : List (Fragment CharRange)} {range : CharRange} {paint k : Paint}
  {cursor inner a b p : ℕ}

/-- The paint of each character that spans make up. -/
def painted (spans : List (Paint × Text)) : List Paint :=
  spans.flatMap fun s => List.replicate s.2.length s.1

/-- Spans that begin at position `start` of a line paint position `p`. -/
def PaintsAt (spans : List (Paint × Text)) (start p : ℕ) (k : Paint) : Prop :=
  start ≤ p ∧ (painted spans)[p - start]? = some k

lemma length_painted (spans : List (Paint × Text)) :
    (painted spans).length = (spans.flatMap Prod.snd).length := by
  simp [painted, List.length_flatMap]

lemma paintsAt_append {xs ys : List (Paint × Text)} :
    PaintsAt (xs ++ ys) a p k ↔
      PaintsAt xs a p k ∨ PaintsAt ys (a + (painted xs).length) p k := by
  have happend : painted (xs ++ ys) = painted xs ++ painted ys := List.flatMap_append
  simp only [PaintsAt, happend, List.getElem?_append]
  split_ifs with h
  · constructor
    · exact Or.inl
    · rintro (hx | hy)
      · exact hx
      · omega
  · have hnone : (painted xs)[p - a]? = none := List.getElem?_eq_none (Nat.le_of_not_lt h)
    have hsub : p - a - (painted xs).length = p - (a + (painted xs).length) := by omega
    simp only [hnone, hsub, reduceCtorEq, and_false, false_or]
    constructor
    · rintro ⟨hle, hk⟩
      exact ⟨by omega, hk⟩
    · rintro ⟨hle, hk⟩
      exact ⟨by omega, hk⟩

lemma paintsAt_span :
    PaintsAt (span line paint a b) (min a line.length) p k ↔
      k = paint ∧ a ≤ p ∧ p < b ∧ p < line.length := by
  have hpainted : painted (span line paint a b) =
      List.replicate (min b line.length - min a line.length) paint := by
    unfold span
    split_ifs with h
    · have hstop : (CharRange.ofBounds a b).stop = b := Nat.max_eq_right h.le
      have hstart : (CharRange.ofBounds a b).start = a := rfl
      simp only [painted, List.flatMap_singleton, CharRange.slice_eq_take_drop, hstop, hstart,
        List.length_take, List.length_drop]
      congr 1
      omega
    · have hzero : min b line.length - min a line.length = 0 := by omega
      rw [hzero]
      rfl
  simp only [PaintsAt, hpainted, List.getElem?_replicate, Option.ite_none_right_eq_some,
    Option.some.injEq]
  constructor
  · rintro ⟨hle, hlt, rfl⟩
    exact ⟨rfl, by omega⟩
  · rintro ⟨rfl, h⟩
    exact ⟨by omega, by omega, rfl⟩

/-- Where the spans behind a span begin. -/
lemma min_add_length_span (h : a ≤ b) :
    min a line.length + (painted (span line paint a b)).length = min b line.length := by
  rw [length_painted, flatMap_span, List.length_take, List.length_drop]
  omega

lemma min_add_length_matchSpans (h : inner ≤ range.stop) :
    min inner line.length + (painted (matchSpans line range inner fs)).length =
      min range.stop line.length := by
  rw [length_painted, flatMap_matchSpans h, List.length_take, List.length_drop]
  omega

/-- A position in one of the groups that stand first in a list, which lies in the match from `inner`
on. -/
def InGroup (range : CharRange) (inner : ℕ) (fs : List (Fragment CharRange)) (p : ℕ) : Prop :=
  ∃ groups g id after, fs = groups ++ .group g id :: after ∧ (∀ f ∈ groups, f.kind = .group) ∧
    inner ≤ g.start ∧ g.stop ≤ range.stop ∧ g.start ≤ p ∧ p < g.stop

lemma InGroup.of_cons {g : CharRange} {id from' : ℕ} (hle : inner ≤ from')
    (h : InGroup range from' fs p) : InGroup range inner (.group g id :: fs) p := by
  obtain ⟨groups, q, n, after, rfl, hgroups, hstart, hrest⟩ := h
  refine ⟨.group g id :: groups, q, n, after, rfl, ?_, hle.trans hstart, hrest⟩
  exact List.forall_mem_cons.mpr ⟨rfl, hgroups⟩

/-- The spans of a match paint its own positions, as a group only those in a group. -/
lemma of_paintsAt_matchSpans (hinner : inner ≤ range.stop)
    (h : PaintsAt (matchSpans line range inner fs) (min inner line.length) p k) :
    inner ≤ p ∧ p < range.stop ∧ (k = matched ∨ k = group ∧ InGroup range inner fs p) := by
  induction fs generalizing inner with
  | nil =>
    rw [matchSpans, paintsAt_span] at h
    · exact ⟨h.2.1, h.2.2.1, .inl h.1⟩
    · simp
  | cons f fs ih =>
    cases f with
    | group g id =>
      rw [matchSpans] at h
      split_ifs at h with hskip
      · obtain ⟨hle, hlt, hk⟩ := ih hinner h
        exact ⟨hle, hlt, hk.imp_right (And.imp_right (InGroup.of_cons le_rfl))⟩
      · have hg := g.start_le_stop
        have hinside : inner ≤ g.start ∧ g.stop ≤ range.stop := by simpa using hskip
        rw [List.append_assoc, paintsAt_append, paintsAt_append, min_add_length_span hinside.1,
          min_add_length_span hg, paintsAt_span, paintsAt_span] at h
        rcases h with ⟨rfl, h⟩ | ⟨rfl, h⟩ | h
        · exact ⟨h.1, by omega, .inl rfl⟩
        · refine ⟨by omega, by omega, .inr ⟨rfl, [], g, id, fs, rfl, by simp, hinside.1, hinside.2, ?_⟩⟩
          exact ⟨h.1, h.2.1⟩
        · obtain ⟨hle, hlt, hk⟩ := ih hinside.2 h
          refine ⟨by omega, hlt, hk.imp_right (And.imp_right (InGroup.of_cons ?_))⟩
          omega
    | _ =>
      rw [matchSpans, paintsAt_span] at h
      · exact ⟨h.2.1, h.2.2.1, .inl h.1⟩
      · simp

/-- The spans of a line paint as a match or as a group what the spans of one of its matches do. -/
lemma of_paintsAt_spansFrom
    (h : PaintsAt (spansFrom line cursor fs) (min cursor line.length) p k) :
    cursor ≤ p ∧ (k = plain ∨ ∃ before range rest, fs = before ++ .matched range :: rest ∧
      PaintsAt (matchSpans line range range.start rest) (min range.start line.length) p k) := by
  induction fs generalizing cursor with
  | nil =>
    rw [spansFrom, paintsAt_span] at h
    exact ⟨h.2.1, .inl h.1⟩
  | cons f fs ih =>
    have hcons {from' : ℕ} (hle : cursor ≤ from')
        (h : PaintsAt (spansFrom line from' fs) (min from' line.length) p k) :
        cursor ≤ p ∧ (k = plain ∨ ∃ before range rest, f :: fs = before ++ .matched range :: rest ∧
          PaintsAt (matchSpans line range range.start rest) (min range.start line.length) p k) := by
      obtain ⟨hp, hk⟩ := ih h
      refine ⟨hle.trans hp, hk.imp_right ?_⟩
      rintro ⟨before, range, rest, rfl, hrest⟩
      exact ⟨f :: before, range, rest, rfl, hrest⟩
    cases f with
    | matched range =>
      rw [spansFrom] at h
      split_ifs at h with hskip
      · exact hcons le_rfl h
      · have hstart : cursor ≤ range.start := Nat.le_of_not_lt hskip
        have hrange := range.start_le_stop
        rw [List.append_assoc, paintsAt_append, paintsAt_append, min_add_length_span hstart,
          min_add_length_matchSpans hrange, paintsAt_span] at h
        rcases h with ⟨rfl, h⟩ | h | h
        · exact ⟨h.1, .inl rfl⟩
        · have hp := (of_paintsAt_matchSpans hrange h).1
          exact ⟨hstart.trans hp, .inr ⟨[], range, fs, rfl, h⟩⟩
        · exact hcons (hstart.trans hrange) h
    | _ => exact hcons le_rfl h

lemma pairwise_of_isChain {rs : List CharRange} (h : rs.IsChain (·.stop ≤ ·.start)) :
    rs.Pairwise (·.stop ≤ ·.start) := by
  have : IsTrans CharRange (·.stop ≤ ·.start) :=
    ⟨fun _ q _ hrq hqs => hrq.trans (q.start_le_stop.trans hqs)⟩
  exact List.isChain_iff_pairwise.mp h

/-- Where the matches are in order, all of them are painted. -/
lemma not_mem_of_plain (hlow : ∀ r ∈ matchedRanges fs, cursor ≤ r.start)
    (hpairwise : (matchedRanges fs).Pairwise (·.stop ≤ ·.start))
    (h : PaintsAt (spansFrom line cursor fs) (min cursor line.length) p plain) :
    ∀ r ∈ matchedRanges fs, ¬(r.start ≤ p ∧ p < r.stop) := by
  induction fs generalizing cursor with
  | nil => simp
  | cons f fs ih =>
    cases f with
    | matched range =>
      rw [matchedRanges_matched] at hlow hpairwise ⊢
      obtain ⟨hstart, hlow⟩ := List.forall_mem_cons.mp hlow
      obtain ⟨hbehind, hpairwise⟩ := List.pairwise_cons.mp hpairwise
      have hrange := range.start_le_stop
      rw [spansFrom, if_neg (Nat.not_lt.mpr hstart), List.append_assoc, paintsAt_append,
        paintsAt_append, min_add_length_span hstart, min_add_length_matchSpans hrange,
        paintsAt_span] at h
      rcases h with ⟨-, h⟩ | h | h
      · have hrest (r : CharRange) (hr : r ∈ matchedRanges fs) : ¬(r.start ≤ p ∧ p < r.stop) := by
          have := hbehind r hr
          omega
        exact List.forall_mem_cons.mpr ⟨by omega, hrest⟩
      · obtain ⟨-, -, hk | ⟨hk, -⟩⟩ := of_paintsAt_matchSpans hrange h <;> cases hk
      · have hp := (of_paintsAt_spansFrom h).1
        exact List.forall_mem_cons.mpr ⟨by omega, ih hbehind hpairwise h⟩
    | _ => exact ih hlow hpairwise h

lemma paintsAt_spans :
    PaintsAt (spansFrom line 0 fs) (min 0 line.length) p k ↔ (painted (spans line fs))[p]? = some k := by
  simp [PaintsAt, spans]

/-- What is painted as a match or as a group lies in a match. What is painted as a group lies in a
group that follows this match, before any other match or gap, and is contained in it. If the matches
are in order, a position of the line is plain just if it lies in no match. -/
theorem painting_marks_matches (line : Text) (fs : List (Fragment CharRange)) :
    (painted (spans line fs)).length = line.length ∧
    (∀ p k, (painted (spans line fs))[p]? = some k → k ≠ plain →
      ∃ before range rest, fs = before ++ .matched range :: rest ∧ range.start ≤ p ∧ p < range.stop ∧
        (k = group → InGroup range range.start rest p)) ∧
    ((matchedRanges fs).IsChain (·.stop ≤ ·.start) → ∀ p < line.length,
      ((painted (spans line fs))[p]? = some plain ↔
        ∀ range ∈ matchedRanges fs, ¬(range.start ≤ p ∧ p < range.stop))) := by
  have hlength : (painted (spans line fs)).length = line.length := by
    rw [length_painted, flatMap_spans]
  have hmarked (p : ℕ) (k : Paint) (hk : (painted (spans line fs))[p]? = some k) (hne : k ≠ plain) :
      ∃ before range rest, fs = before ++ .matched range :: rest ∧ range.start ≤ p ∧ p < range.stop ∧
        (k = group → InGroup range range.start rest p) := by
    obtain hplain | ⟨before, range, rest, hfs, hspans⟩ :=
      (of_paintsAt_spansFrom (paintsAt_spans.mpr hk)).2
    · exact absurd hplain hne
    · obtain ⟨hstart, hstop, hgroup⟩ := of_paintsAt_matchSpans range.start_le_stop hspans
      refine ⟨before, range, rest, hfs, hstart, hstop, ?_⟩
      rintro rfl
      obtain hk | ⟨-, hin⟩ := hgroup
      · cases hk
      · exact hin
  refine ⟨hlength, hmarked, fun hchain p hp => ⟨fun hplain => ?_, fun hout => ?_⟩⟩
  · exact not_mem_of_plain (fun _ _ => Nat.zero_le _) (pairwise_of_isChain hchain)
      (paintsAt_spans.mpr hplain)
  · have hget : (painted (spans line fs))[p]? = some (painted (spans line fs))[p] :=
      List.getElem?_eq_getElem (hlength ▸ hp)
    by_contra hne
    rw [hget, Option.some_inj] at hne
    obtain ⟨before, range, rest, rfl, hstart, hstop, -⟩ := hmarked p _ hget hne
    exact hout range (mem_matchedRanges.mpr (by simp)) ⟨hstart, hstop⟩

/-- The group in front of the first match and the one that begins before its match are not painted.
The second match touches the first one and ends behind the line. -/
theorem painting_marks_matches_touching :
    let line : Text := "äbcde".toList
    let fs : List (Fragment CharRange) := [.group (.ofBounds 0 1) 0, .matched (.ofBounds 1 4),
      .group (.ofBounds 0 2) 0, .group (.ofBounds 2 3) 1, .matched (.ofBounds 4 9)]
    (matchedRanges fs).IsChain (·.stop ≤ ·.start) ∧ 0 < line.length ∧
      (painted (spans line fs))[0]? = some plain ∧ (painted (spans line fs))[2]? = some group ∧
      ∃ before range rest, fs = before ++ .matched range :: rest ∧ range.start ≤ 2 ∧ 2 < range.stop ∧
        InGroup range range.start rest 2 := by
  intro line fs
  have hchain : (matchedRanges fs).IsChain (·.stop ≤ ·.start) := by simp [fs, CharRange.ofBounds]
  have hpos : 0 < line.length := by simp [line]
  have houtside : ∀ range ∈ matchedRanges fs, ¬(range.start ≤ 0 ∧ 0 < range.stop) := by
    simp [fs, CharRange.ofBounds]
  have hgroup : (painted (spans line fs))[2]? = some group := by decide +kernel
  obtain ⟨-, hmarked, hplain⟩ := painting_marks_matches line fs
  obtain ⟨before, range, rest, hfs, hstart, hstop, hin⟩ := hmarked 2 group hgroup (by decide)
  refine ⟨hchain, hpos, (hplain hchain 0 hpos).mpr houtside, hgroup, ?_⟩
  exact ⟨before, range, rest, hfs, hstart, hstop, hin rfl⟩

end PatternAlgebra.Paint
