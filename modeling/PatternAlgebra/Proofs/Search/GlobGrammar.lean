import PatternAlgebra.Proofs.Regex.Fragments
import PatternAlgebra.Proofs.Regex.Literal
import PatternAlgebra.Proofs.Regex.Order
import PatternAlgebra.Proofs.Search.GlobTokens

/-! The grammar of a glob. The tokenizer matches the tokens one after the other, each where the text
behind the last one first begins with one. A set is written down as it stands, and the text between
two tokens is escaped. So in a glob without sets each character is written down just once. -/
namespace PatternAlgebra.Search

open Engine

/-- What a glob without sets writes for one of its characters. -/
def globSign (c : Char) : Text :=
  if c = '?' then ['.'] else if c = '*' then ['.', '*'] else escapePattern [c]

lemma globSign_eq_escapeEach (c : Char) : globSign c =
    if c = '?' then ['.'] else if c = '*' then ['.', '*'] else escapeEach [c] := by
  rw [globSign, escapePattern_eq_escapeEach]

def tokenRegex : Regex where
  grammar := globElement.grammar
  flags := .ofCase true
  program := { body := .regular tokenRegular, groups := 3, lastGroup := 3, names := [] }

lemma globTokenizer_eq : globTokenizer = some tokenRegex := by decide +kernel

/-- What a glob writes: its sets as they stand, and its other characters one by one. -/
def written : Text → Text
  | [] => []
  | c :: u =>
    if c = '[' then
      match setLength? u with
      | some n => c :: u.take n ++ written (u.drop n)
      | none => globSign c ++ written u
    else globSign c ++ written u
termination_by u => u.length
decreasing_by all_goals simp only [List.length_cons, List.length_drop]; omega

/-- The match of a token. -/
def tokenMatch (n i length : ℕ) : Match Span where
  whole := ⟨i, i + length⟩
  groups := (List.range' 1 3).map fun m => List.lookup m [(n, ⟨i, i + length⟩)]

variable {g u v : Text} {c : Char} {origin fuel k n length : ℕ} {previous : Option ℕ}

lemma closeLength_le (hmem : ']' ∈ u) : closeLength u ≤ u.length := by
  induction hn : u.length using Nat.strong_induction_on generalizing u with
  | _ n ih =>
    rcases closeLength_cases hmem with
      ⟨c, v, rfl, -, hv, hlength⟩ | ⟨run, rest, rfl, -, hlength, -⟩
    · have hle := ih v.length (by simp at hn; omega) hv rfl
      rw [hlength, ← hn]
      simpa using hle
    · rw [hlength, ← hn]
      simp

/-- A token is not empty, and ends within the text. -/
lemma length_of_token? (h : token? u = some (n, length)) : 0 < length ∧ length ≤ u.length := by
  cases u with
  | nil => contradiction
  | cons c u =>
    rw [token?] at h
    split_ifs at h
    · obtain ⟨m, hm, hpair⟩ := Option.map_eq_some_iff.mp h
      obtain ⟨-, rfl⟩ := Prod.mk.inj hpair
      unfold setLength? at hm
      split_ifs at hm with hset
      rw [← Option.some.inj hm]
      exact ⟨Nat.succ_pos _, Nat.succ_le_succ (closeLength_le hset.1)⟩
    · obtain ⟨m, -, hpair⟩ := Option.map_eq_some_iff.mp h
      obtain ⟨-, rfl⟩ := Prod.mk.inj hpair
      exact ⟨Nat.one_pos, Nat.succ_le_succ (Nat.zero_le _)⟩

/-! ### Matches -/

/-- A search for tokens finds the next one. -/
lemma search_tokenRegex (g : Text) (origin : ℕ) :
    (∀ k, origin ≤ k → token? (g.drop k) = none) ∧
        tokenRegex.program.search g.toArray origin = .missing ∨
      ∃ k n length, origin ≤ k ∧ (∀ m, origin ≤ m → m < k → token? (g.drop m) = none) ∧
        token? (g.drop k) = some (n, length) ∧
          tokenRegex.program.search g.toArray origin = .found (tokenMatch n k length) := by
  have hnone {k : ℕ} (hk : (Context.ofText g origin).first? tokenRegular k = none) :
      token? (g.drop k) = none := by
    rw [first?_tokenRegular] at hk
    exact Option.map_eq_none_iff.mp hk
  have hsize : g.toArray.size = g.length := List.size_toArray
  rcases tokenRegex.program.findRegular_cases (Context.ofText g origin) tokenRegular
    (g.toArray.size + 1 - origin) origin with
    ⟨hall, hmissing⟩ | ⟨k, p, hle, -, hleast, hp, hfound⟩
  · refine Or.inl ⟨fun k hk => ?_, hmissing⟩
    rcases Nat.lt_or_ge k g.length with hlt | hge
    · exact hnone (hall k hk (by omega))
    · rw [List.drop_eq_nil_of_le hge]
      rfl
  · rw [first?_tokenRegular] at hp
    obtain ⟨⟨n, length⟩, htoken, rfl⟩ := Option.map_eq_some_iff.mp hp
    exact Or.inr ⟨k, n, length, hle, fun m hm hlt => hnone (hleast m hm hlt), htoken, hfound⟩

/-- The tokens are matched one after the other. -/
lemma searchAll_tokenRegex (g : Text) (fuel origin : ℕ) (previous : Option ℕ) :
    (∀ k, origin ≤ k → token? (g.drop k) = none) ∧
        (tokenRegex.program.searchAll g.toArray (fuel + 1) origin previous).1 = [] ∨
      ∃ k n length, origin ≤ k ∧ (∀ m, origin ≤ m → m < k → token? (g.drop m) = none) ∧
        token? (g.drop k) = some (n, length) ∧
          (tokenRegex.program.searchAll g.toArray (fuel + 1) origin previous).1 =
            tokenMatch n k length ::
              (tokenRegex.program.searchAll g.toArray fuel (k + length) (some (k + length))).1 := by
  rw [Program.searchAll]
  rcases search_tokenRegex g origin with
    ⟨hnone, hsearch⟩ | ⟨k, n, length, hle, hleast, htoken, hsearch⟩
  · rw [hsearch]
    exact Or.inl ⟨hnone, rfl⟩
  · have hne : (tokenMatch n k length).whole.start ≠ (tokenMatch n k length).whole.stop := by
      have hpos := (length_of_token? htoken).1
      change k ≠ k + length
      omega
    rw [hsearch]
    simp only [hne, if_false, false_and]
    exact Or.inr ⟨k, n, length, hle, hleast, htoken, rfl⟩

/-! ### The parts that are written -/

lemma flatMap_globSign_of_none (hu : ∀ c ∈ u, tokenGroup? c = none) :
    u.flatMap globSign = escapePattern u := by
  rw [escapePattern_eq_escapeEach]
  induction u with
  | nil => rfl
  | cons c u ih =>
    obtain ⟨hc, hu⟩ := List.forall_mem_cons.mp hu
    have hplain : globSign c = escapeEach [c] := by
      rw [← escapePattern_eq_escapeEach, globSign]
      unfold tokenGroup? at hc
      split_ifs at hc ⊢
      rfl
    rw [List.flatMap_cons, ih hu, hplain, ← Sign.escapeEach_cons]

/-- The text between two tokens is escaped. -/
lemma flatMap_gap (g : Text) (i j : ℕ) :
    (gap i j).flatMap (globPart g) = escapePattern ((g.drop i).take (j - i)) := by
  rw [gap]
  split_ifs with hlt
  · rw [List.flatMap_singleton, globPart, CharRange.slice_eq_take_drop]
    simp only [CharRange.ofBounds, max_eq_right hlt.le]
  · have hzero : j - i = 0 := by omega
    rw [hzero, List.take_zero, escapePattern_eq_escapeEach]
    rfl

lemma written_of_ne (hc : c ≠ '[') (u : Text) : written (c :: u) = globSign c ++ written u := by
  rw [written, if_neg hc]

/-- Where no token begins, what is written is the escaped character. -/
lemma written_of_none (h : token? (c :: u) = none) :
    written (c :: u) = escapeEach [c] ++ written u := by
  rw [token?] at h
  split_ifs at h with hc
  · rw [written, if_pos hc, Option.map_eq_none_iff.mp h, hc, ← escapePattern_eq_escapeEach]
    rfl
  · have hplain := flatMap_globSign_of_none
      (List.forall_mem_singleton.mpr (Option.map_eq_none_iff.mp h))
    rw [List.flatMap_singleton, escapePattern_eq_escapeEach] at hplain
    rw [written_of_ne hc, hplain]

lemma written_append_of_none (h : ∀ m < u.length, token? ((u ++ v).drop m) = none) :
    written (u ++ v) = escapePattern u ++ written v := by
  rw [escapePattern_eq_escapeEach]
  induction u with
  | nil => rfl
  | cons c u ih =>
    have hfirst : token? (c :: (u ++ v)) = none := h 0 (Nat.succ_pos _)
    have hrest : ∀ m < u.length, token? ((u ++ v).drop m) = none :=
      fun m hm => h (m + 1) (Nat.succ_lt_succ hm)
    rw [List.cons_append, written_of_none hfirst, ih hrest, ← List.append_assoc,
      ← Sign.escapeEach_cons]

/-- Up to the next token the text is escaped. -/
lemma written_drop (hle : origin ≤ k) (hk : k ≤ g.length)
    (h : ∀ m, origin ≤ m → m < k → token? (g.drop m) = none) :
    written (g.drop origin) = (gap origin k).flatMap (globPart g) ++ written (g.drop k) := by
  have hsplit : g.drop origin = (g.drop origin).take (k - origin) ++ g.drop k := by
    rw [← Nat.add_sub_cancel' hle, Nat.add_sub_cancel_left, ← List.drop_drop, List.take_append_drop]
  have hlength : ((g.drop origin).take (k - origin)).length = k - origin := by
    rw [List.length_take, List.length_drop]
    omega
  rw [flatMap_gap]
  conv_lhs => rw [hsplit]
  refine written_append_of_none fun m hm => ?_
  rw [← hsplit, List.drop_drop]
  exact h (origin + m) (Nat.le_add_right origin m) (by omega)

lemma inText_tokenMatch (hle : k + length ≤ g.length) :
    (Regex.inText g (tokenMatch n k length)).whole = .ofBounds k (k + length) ∧
      (Regex.inText g (tokenMatch n k length)).groups = (List.range' 1 3).map fun m =>
        List.lookup m [(n, CharRange.ofBounds k (k + length))] := by
  have hrange : CharRange.ofByteSpan g (Program.toByteSpan g ⟨k, k + length⟩) =
      .ofBounds k (k + length) := by
    rw [CharRange.ofByteSpan_toByteSpan]
    exact congrArg₂ _ (min_eq_left (Nat.le_of_add_right_le hle)) (min_eq_left hle)
  refine ⟨hrange, ?_⟩
  simp only [Regex.inText, Match.map, tokenMatch, List.map_map]
  refine List.map_congr_left fun m _ => ?_
  simp only [Function.comp_apply, List.lookup_cons, List.lookup_nil]
  split
  · exact congrArg some hrange
  · rfl

/-- A token writes what is written for it. -/
lemma written_of_token (htoken : token? (g.drop k) = some (n, length)) :
    written (g.drop k) =
      (groupsFrom 0 (Regex.inText g (tokenMatch n k length)).groups).flatMap (globPart g) ++
        written (g.drop (k + length)) := by
  obtain ⟨hpos, hlength⟩ := length_of_token? htoken
  rw [List.length_drop] at hlength
  rw [(inText_tokenMatch (by omega)).2, ← List.drop_drop]
  cases hu : g.drop k with
  | nil => simp [hu, token?] at htoken
  | cons c u =>
    rw [hu, token?] at htoken
    split_ifs at htoken with hc
    · obtain ⟨m, hm, hpair⟩ := Option.map_eq_some_iff.mp htoken
      obtain ⟨rfl, rfl⟩ := Prod.mk.inj hpair
      have hpart : (g.drop k).take (k + (m + 1) - k) = c :: u.take m := by
        rw [hu, Nat.add_sub_cancel_left, List.take_succ_cons]
      have hslice : (CharRange.ofBounds k (k + (m + 1))).slice g = c :: u.take m := by
        rw [CharRange.slice_eq_take_drop, ← hpart]
        simp only [CharRange.ofBounds, max_eq_right (Nat.le_add_right k (m + 1))]
      have hgroups : groupsFrom 0 ((List.range' 1 3).map fun i =>
          List.lookup i [(3, CharRange.ofBounds k (k + (m + 1)))]) =
            [.group (.ofBounds k (k + (m + 1))) 2] := rfl
      rw [written, if_pos hc, hm, hgroups, List.flatMap_singleton, globPart, hslice]
      rfl
    · obtain ⟨m, hm, hpair⟩ := Option.map_eq_some_iff.mp htoken
      obtain ⟨rfl, rfl⟩ := Prod.mk.inj hpair
      rw [written_of_ne hc]
      unfold tokenGroup? at hm
      unfold globSign
      split_ifs at hm ⊢ <;> obtain rfl := Option.some.inj hm <;> rfl

/-- What is written behind a token, or from the start of the glob on. -/
lemma flatMap_layout (hfuel : g.length < origin + fuel) (previous : Option ℕ) :
    (layout g.length origin ((tokenRegex.program.searchAll g.toArray fuel origin previous).1.map
      (Regex.inText g))).flatMap (globPart g) = written (g.drop origin) := by
  induction fuel generalizing origin previous with
  | zero =>
    have hend : g.drop origin = [] := List.drop_eq_nil_of_le (by omega)
    have hgap : gap origin g.length = [] := if_neg (by omega)
    rw [hend, Program.searchAll, List.map_nil, layout, hgap, written]
    rfl
  | succ fuel ih =>
    rcases searchAll_tokenRegex g fuel origin previous with
      ⟨hnone, hsearch⟩ | ⟨k, n, length, hle, hleast, htoken, hsearch⟩
    · rw [hsearch, List.map_nil, layout]
      rcases Nat.lt_or_ge g.length origin with hlt | hge
      · have hgap : gap origin g.length = [] := if_neg (by omega)
        rw [hgap, List.drop_eq_nil_of_le hlt.le, written]
        rfl
      · rw [written_drop hge le_rfl fun m hm _ => hnone m hm, List.drop_length, written,
          List.append_nil]
    · obtain ⟨hpos, hlength⟩ := length_of_token? htoken
      rw [List.length_drop] at hlength
      have hwhole : (Regex.inText g (tokenMatch n k length)).whole = .ofBounds k (k + length) :=
        (inText_tokenMatch (by omega)).1
      have hrest := ih (show g.length < k + length + fuel by omega) (some (k + length))
      have hmatched (r : CharRange) : globPart g (.matched r) = [] := rfl
      have hstop : (CharRange.ofBounds k (k + length)).stop = k + length :=
        max_eq_right (Nat.le_add_right k length)
      rw [hsearch, List.map_cons, layout, hwhole, hstop, written_drop hle (by omega) hleast,
        written_of_token htoken]
      simp only [List.flatMap_append, List.flatMap_cons, hmatched, List.nil_append]
      rw [hrest]
      rfl

/-- A visitor that writes gathers the parts of all that it is shown. -/
lemma run_globWriter (g : Text) (fs : List (Fragment CharRange)) (parts : List Text) :
    (globWriter g).run fs (parts, true) = ((fs.map (globPart g)).reverse ++ parts, true) := by
  induction fs generalizing parts with
  | nil => rfl
  | cons f fs ih => simp [Visitor.offer, globWriter, ih]

lemma occurrences_tokenRegex (g : Text) : tokenRegex.occurrences g =
    (tokenRegex.program.searchAll g.toArray (g.length + 2) 0 none).1.map (Regex.inText g) :=
  tokenRegex.occurrences_eq_inText g

/-- The grammar of a glob, token by token. -/
theorem globGrammar_eq_written (g : Text) : globGrammar g = some (written g) := by
  have hlayout := flatMap_layout (show g.length < 0 + (g.length + 2) by omega) none
  have hparts := tokenRegex.iterate_eq_run g .everything (globWriter g) []
  have hwrites (f : Fragment CharRange) (parts : List Text) : (globWriter g f parts).2 = true := rfl
  have hcount := tokenRegex.iterate_count g .everything hwrites []
  rw [← occurrences_tokenRegex, List.drop_zero] at hlayout
  rw [Selection.restrict_everything, run_globWriter] at hparts
  rw [globGrammar, globTokenizer_eq, Option.map_some]
  generalize tokenRegex.iterate g .everything (globWriter g) [] = written at hparts hcount
  obtain ⟨tokens, parts⟩ := written
  simp only at hparts hcount ⊢
  rw [← hlayout]
  by_cases hnone : tokenRegex.occurrences g = []
  · have hzero : tokens = 0 := by
      rw [hcount, Regex.shown, hnone]
      rfl
    rw [if_pos hzero, hnone, layout, flatMap_gap, List.drop_zero, Nat.sub_zero, List.take_length]
  · have hpos : tokens ≠ 0 := by
      rw [hcount, Regex.shown_of_ne_nil hnone]
      change Fragment.matchCount _ ≠ 0
      rw [matchCount_layout]
      exact mt List.length_eq_zero_iff.mp hnone
    rw [if_neg hpos, hparts, Regex.shown_of_ne_nil hnone, List.append_nil, List.reverse_reverse,
      ← List.flatMap_def]

lemma written_append_of_not_mem (hu : '[' ∉ u) (v : Text) :
    written (u ++ v) = u.flatMap globSign ++ written v := by
  induction u with
  | nil => rfl
  | cons c u ih =>
    obtain ⟨hc, hu⟩ := not_or.mp (List.mem_cons.not.mp hu)
    rw [List.cons_append, written_of_ne (Ne.symm hc), ih hu, List.flatMap_cons, List.append_assoc]

lemma written_of_not_mem (hg : '[' ∉ g) : written g = g.flatMap globSign := by
  simpa [written] using written_append_of_not_mem hg []

/-- The grammar of a glob without sets, character by character. -/
lemma globGrammar_eq (hg : '[' ∉ g) : globGrammar g = some (g.flatMap globSign) := by
  rw [globGrammar_eq_written, written_of_not_mem hg]

end PatternAlgebra.Search
