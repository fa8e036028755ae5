import Mathlib
import PatternAlgebra.Stream.Selection
import PatternAlgebra.Stream.Visitor

/-! What a visitor makes of a list of fragments, and what a selection makes of a stream: it keeps
the kinds it asks for and cuts the stream behind its last match. -/
namespace PatternAlgebra

namespace Visitor

variable {σ : Type}

/-- Shows the fragments of a list in turn, until the visitor has enough. -/
def run (visit : Visitor σ) (fragments : List (Fragment CharRange)) (progress : σ × Bool) :
    σ × Bool :=
  fragments.foldl (fun progress fragment => visit.offer true fragment progress) progress

@[simp] lemma run_nil (visit : Visitor σ) (p : σ × Bool) : visit.run [] p = p := rfl

@[simp] lemma run_cons (visit : Visitor σ) (f : Fragment CharRange)
    (fs : List (Fragment CharRange)) (p : σ × Bool) :
    visit.run (f :: fs) p = visit.run fs (visit.offer true f p) := rfl

@[simp] lemma run_append (visit : Visitor σ) (fs gs : List (Fragment CharRange)) (p : σ × Bool) :
    visit.run (fs ++ gs) p = visit.run gs (visit.run fs p) := List.foldl_append

lemma run_stopped (visit : Visitor σ) (fs : List (Fragment CharRange)) {p : σ × Bool}
    (hp : p.2 = false) : visit.run fs p = p := by
  induction fs with
  | nil => rfl
  | cons f fs ih => simpa [offer, hp] using ih

lemma offer_true (visit : Visitor σ) (f : Fragment CharRange) (s : σ) :
    visit.offer true f (s, true) = visit f s := rfl

lemma offer_of_neverStops {visit : Visitor σ} (hv : ∀ f s, (visit f s).2 = true) (wanted : Bool)
    (f : Fragment CharRange) (s : σ) : (visit.offer wanted f (s, true)).2 = true := by
  cases wanted <;> simp [offer, hv]

lemma offer_eq_run (visit : Visitor σ) (wanted : Bool) (f : Fragment CharRange) (p : σ × Bool) :
    visit.offer wanted f p = visit.run (if wanted then [f] else []) p := by
  cases wanted <;> simp [offer]

lemma run_collect (fs found : List (Fragment CharRange)) :
    collect.run fs (found, true) = (fs.reverse ++ found, true) := by
  induction fs generalizing found with
  | nil => rfl
  | cons f fs ih => simp [offer, collect, ih]

lemma run_of_neverStops {visit : Visitor σ} (hv : ∀ f s, (visit f s).2 = true)
    (fs : List (Fragment CharRange)) (s : σ) :
    visit.run fs (s, true) = (fs.foldl (fun s f => (visit f s).1) s, true) := by
  induction fs generalizing s with
  | nil => rfl
  | cons f fs ih =>
    have hf : visit f s = ((visit f s).1, true) := Prod.ext rfl (hv f s)
    rw [run_cons, offer, if_pos (by simp), hf, ih, List.foldl_cons]

/-- The state of a visitor that has been shown a list, whatever it has answered. -/
def after (visit : Visitor σ) (fs : List (Fragment CharRange)) (s : σ) : σ :=
  fs.foldl (fun s f => (visit f s).1) s

/-- Notes every fragment that a visitor is shown, and answers as the visitor does. -/
def recording (visit : Visitor σ) : Visitor (σ × List (Fragment CharRange)) := fun f (s, seen) =>
  let (s, more) := visit f s
  ((s, seen ++ [f]), more)

/-- A visitor that is shown a list in turn asks for more until it is shown the fragment with the
number `j`, and has enough there. What it would answer later is left open. -/
def StopsAt (visit : Visitor σ) (j : ℕ) (fs : List (Fragment CharRange)) (s : σ) : Prop :=
  ∀ i f, fs[i]? = some f → i < j → (visit f (visit.after (fs.take i) s)).2 = (i + 1 != j)

lemma StopsAt.head {visit : Visitor σ} {j : ℕ} {f : Fragment CharRange}
    {fs : List (Fragment CharRange)} {s : σ} (h : visit.StopsAt (j + 1) (f :: fs) s) :
    (visit f s).2 = (j != 0) := by
  simpa [after] using h 0 f rfl (Nat.succ_pos j)

lemma StopsAt.tail {visit : Visitor σ} {j : ℕ} {f : Fragment CharRange}
    {fs : List (Fragment CharRange)} {s : σ} (h : visit.StopsAt (j + 1) (f :: fs) s) :
    visit.StopsAt j fs (visit f s).1 := by
  intro i g hg hi
  simpa [after] using h (i + 1) g hg (Nat.succ_lt_succ hi)

lemma run_of_stopsAt {visit : Visitor σ} {j : ℕ} {fs : List (Fragment CharRange)} {s : σ}
    (h : visit.StopsAt (j + 1) fs s) : (visit.run fs (s, true)).1 = visit.after (fs.take (j + 1)) s := by
  induction fs generalizing j s with
  | nil => rfl
  | cons f fs ih =>
    have hf : visit f s = ((visit f s).1, j != 0) := Prod.ext rfl h.head
    rw [run_cons, offer_true, hf]
    cases j with
    | zero => simp [run_stopped, after]
    | succ j => exact ih h.tail

lemma after_recording (visit : Visitor σ) (fs seen : List (Fragment CharRange)) (s : σ) :
    visit.recording.after fs (s, seen) = (visit.after fs s, seen ++ fs) := by
  induction fs generalizing s seen with
  | nil => simp [after]
  | cons f fs ih => simpa [after, recording] using ih (seen ++ [f]) (visit f s).1

lemma StopsAt.recording {visit : Visitor σ} {j : ℕ} {fs : List (Fragment CharRange)} {s : σ}
    (h : visit.StopsAt j fs s) (seen : List (Fragment CharRange)) :
    visit.recording.StopsAt j fs (s, seen) := by
  intro i f hf hi
  rw [after_recording]
  exact h i f hf hi

end Visitor

namespace Fragment

/-- How many matches a stream has. -/
def matchCount (fs : List (Fragment CharRange)) : ℕ := fs.countP (·.kind == .matched)

@[simp] lemma matchCount_nil : matchCount [] = 0 := rfl

@[simp] lemma matchCount_append (fs gs : List (Fragment CharRange)) :
    matchCount (fs ++ gs) = matchCount fs + matchCount gs := List.countP_append

lemma exists_eq_matched {f : Fragment CharRange} (h : f.kind = .matched) : ∃ r, f = .matched r := by
  cases f <;> simp_all [kind]

/-- A stream up to the match with this number and the groups directly behind it. -/
def upToMatch : ℕ → List (Fragment CharRange) → List (Fragment CharRange)
  | _, [] => []
  | 0, f :: fs => if f.kind = .group then f :: upToMatch 0 fs else []
  | n + 1, f :: fs => f :: upToMatch (if f.kind = .matched then n else n + 1) fs

@[simp] lemma upToMatch_nil (n : ℕ) : upToMatch n [] = [] := by simp [upToMatch]

/-- Whether a stream goes on with something other than a group. -/
def OpensRegion (fs : List (Fragment CharRange)) : Prop := ∀ f ∈ fs.head?, f.kind ≠ .group

lemma upToMatch_zero_eq (fs : List (Fragment CharRange)) :
    upToMatch 0 fs = fs.takeWhile (·.kind = .group) := by
  induction fs with
  | nil => simp
  | cons f fs ih =>
    by_cases hf : f.kind = .group <;> simp [upToMatch, hf, ih]

lemma upToMatch_zero {fs : List (Fragment CharRange)} (h : OpensRegion fs) : upToMatch 0 fs = [] := by
  cases fs with
  | nil => simp
  | cons f fs => simp [upToMatch, h f (by simp)]

lemma upToMatch_groups {gs : List (Fragment CharRange)} (hg : ∀ f ∈ gs, f.kind = .group) (n : ℕ)
    (fs : List (Fragment CharRange)) : upToMatch n (gs ++ fs) = gs ++ upToMatch n fs := by
  induction gs with
  | nil => rfl
  | cons g gs ih =>
    have hk : g.kind = .group := hg g (by simp)
    have ht := ih fun f hf => hg f (by simp [hf])
    cases n <;> simp [upToMatch, hk, ht]

lemma upToMatch_isPrefix (n : ℕ) (fs : List (Fragment CharRange)) : upToMatch n fs <+: fs := by
  induction fs generalizing n with
  | nil => simp
  | cons f fs ih =>
    cases n with
    | zero =>
      simp only [upToMatch]
      split_ifs
      · exact List.prefix_cons_inj f |>.mpr (ih 0)
      · exact List.nil_prefix
    | succ n => exact List.prefix_cons_inj f |>.mpr (ih _)

lemma upToMatch_of_lt {n : ℕ} {fs : List (Fragment CharRange)} (h : matchCount fs < n) :
    upToMatch n fs = fs := by
  induction fs generalizing n with
  | nil => simp
  | cons f fs ih =>
    obtain ⟨k, rfl⟩ := Nat.exists_eq_succ_of_ne_zero (show n ≠ 0 by omega)
    simp only [matchCount, List.countP_cons, beq_iff_eq] at h
    simp only [upToMatch, List.cons.injEq, true_and]
    apply ih
    simp only [matchCount]
    split_ifs at h ⊢ <;> omega

/-- A stream with enough matches is cut behind the last of them and its groups. -/
lemma exists_upToMatch_eq {n : ℕ} {fs : List (Fragment CharRange)} (hn : 1 ≤ n)
    (h : n ≤ matchCount fs) :
    ∃ before r groups after, fs = before ++ .matched r :: groups ++ after ∧
      matchCount before + 1 = n ∧ (∀ f ∈ groups, f.kind = .group) ∧ OpensRegion after ∧
      upToMatch n fs = before ++ .matched r :: groups := by
  induction fs generalizing n with
  | nil => simp at h; omega
  | cons f fs ih =>
    obtain ⟨k, rfl⟩ := Nat.exists_eq_succ_of_ne_zero (show n ≠ 0 by omega)
    simp only [matchCount, List.countP_cons, beq_iff_eq] at h
    by_cases hlast : f.kind = .matched ∧ k = 0
    · obtain ⟨hf, rfl⟩ := hlast
      obtain ⟨r, rfl⟩ := exists_eq_matched hf
      refine ⟨[], r, fs.takeWhile (·.kind = .group), fs.dropWhile (·.kind = .group), ?_, by simp, ?_,
        ?_, ?_⟩
      · simp
      · intro g hg
        simpa using List.mem_takeWhile_imp hg
      · intro g hg
        have hd := List.head?_dropWhile_not (fun f : Fragment CharRange => decide (f.kind = .group)) fs
        simpa [Option.mem_def.mp hg] using hd
      · simp [upToMatch, kind, upToMatch_zero_eq]
    · have hpos : 1 ≤ if f.kind = .matched then k else k + 1 := by
        split_ifs with hf
        · exact Nat.one_le_iff_ne_zero.mpr fun hk => hlast ⟨hf, hk⟩
        · omega
      have hle : (if f.kind = .matched then k else k + 1) ≤ matchCount fs := by
        simp only [matchCount]
        split_ifs at h ⊢ <;> omega
      obtain ⟨before, r, groups, after, he, hc, hg, ho, hcut⟩ := ih hpos hle
      refine ⟨f :: before, r, groups, after, by simp [he], ?_, hg, ho, ?_⟩
      · simp only [matchCount, List.countP_cons, beq_iff_eq] at hc ⊢
        split_ifs at hc ⊢ <;> omega
      · simp [upToMatch, hcut]

end Fragment

end PatternAlgebra
