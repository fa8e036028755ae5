import PatternAlgebra.Proofs.Search.Rows

/-! Searches for literal text. A literal matches the occurrences of its text that a scan from the
left comes to, if the engine accepts its grammar. A word is located at its first occurrence
between two word boundaries, unless the search gives up on the way there. -/
namespace PatternAlgebra.Search

open Engine

variable {s t : Text} {i j : ℕ}

/-- The occurrences that a scan from a position on comes to: the first one, and those that a scan from
its end on comes to. -/
inductive Scans (s t : Text) : ℕ → List CharRange → Prop
  | stop {i : ℕ} (h : ∀ k, i ≤ k → ¬s.OccursAt t k) : Scans s t i []
  | next {i k : ℕ} {ranges : List CharRange} (hle : i ≤ k) (hk : s.OccursAt t k)
      (hleast : ∀ m, i ≤ m → m < k → ¬s.OccursAt t m) (hrest : Scans s t (k + s.length) ranges) :
      Scans s t i (.ofBounds k (k + s.length) :: ranges)

/-- There is only one way to scan. -/
lemma Scans.unique {xs ys : List CharRange} (hxs : Scans s t i xs) (hys : Scans s t i ys) : xs = ys := by
  induction hxs generalizing ys with
  | stop h =>
    cases hys with
    | stop => rfl
    | next hle hk => exact absurd hk (h _ hle)
  | next hle hk hleast _ ih =>
    cases hys with
    | stop h => exact absurd hk (h _ hle)
    | next hle' hk' hleast' hrest' =>
      obtain rfl := le_antisymm (not_lt.mp fun hlt => hleast _ hle' hlt hk')
        (not_lt.mp fun hlt => hleast' _ hle hlt hk)
      rw [ih hrest']

/-- Whether `s` stands in `t` at a position, between two word boundaries. -/
def WordAt (s t : Text) (i : ℕ) : Prop :=
  s.OccursAt t i ∧ t.IsWordBoundary i ∧ t.IsWordBoundary (i + s.length)

/-! ### Literals -/

/-- A search for a text finds its next occurrence. -/
lemma search_chars (s t : Text) (origin : ℕ) :
    (∀ k, origin ≤ k → ¬s.OccursAt t k) ∧
        (Item.rowProgram (Item.chars s)).search t.toArray origin = .missing ∨
      ∃ k, origin ≤ k ∧ s.OccursAt t k ∧ (∀ m, origin ≤ m → m < k → ¬s.OccursAt t m) ∧
        (Item.rowProgram (Item.chars s)).search t.toArray origin =
          .found ⟨⟨k, k + s.length⟩, []⟩ := by
  have hnowhere {k : ℕ} (hk : k ≤ t.length) (h : ∀ j, ¬Item.RowLeads t (Item.chars s) k j) :
      ¬s.OccursAt t k := fun hoccurs =>
    h _ ((Item.rowLeads_chars hk).mpr ⟨hoccurs, rfl⟩)
  rcases Item.search_rowProgram t origin (Item.chars s) with
    ⟨hnone, hmissing⟩ | ⟨k, p, hle, hk, hleast, hlead, -, hfound⟩
  · refine Or.inl ⟨fun k hle hoccurs => ?_, hmissing⟩
    have hk := hoccurs.le_length
    exact hnowhere hk (hnone k hle hk) hoccurs
  · obtain ⟨hoccurs, hstop⟩ := (Item.rowLeads_chars hk).mp hlead
    rw [hstop] at hfound
    exact Or.inr ⟨k, hle, hoccurs, fun m hm hlt => hnowhere (by omega) (hleast m hm hlt), hfound⟩

/-- All matches together are what a scan comes to. -/
lemma scans_searchAll (hs : s ≠ []) (t : Text) {fuel origin : ℕ} (hfuel : t.length < origin + fuel)
    (previous : Option ℕ) :
    Scans s t origin (((Item.rowProgram (Item.chars s)).searchAll t.toArray fuel origin
      previous).1.map fun m => (Regex.inText t m).whole) := by
  induction fuel generalizing origin previous with
  | zero =>
    refine .stop fun k hk hoccurs => ?_
    have hle := hoccurs.le_length
    omega
  | succ fuel ih =>
    have hpos := List.length_pos_iff.mpr hs
    rw [Program.searchAll]
    rcases search_chars s t origin with ⟨hnone, hsearch⟩ | ⟨k, hle, hk, hleast, hsearch⟩
    · rw [hsearch]
      exact .stop hnone
    · have hne : k ≠ k + s.length := by omega
      have hend := hk.add_length_le
      have hwhole (groups : List (Option Span)) :
          (Regex.inText t ⟨⟨k, k + s.length⟩, groups⟩).whole = .ofBounds k (k + s.length) := by
        have hspan := CharRange.ofByteSpan_toByteSpan t ⟨k, k + s.length⟩
        have hstart : min k t.length = k := by omega
        simp only [hstart, Nat.min_eq_left hend] at hspan
        exact hspan
      rw [hsearch]
      simp only [hne, if_false, false_and, List.map_cons, hwhole]
      exact .next hle hk hleast (ih (by omega) _)

lemma matchRanges_regex (r : Regex) (t : Text) :
    (Matcher.regex r).matchRanges t = ((r.occurrences t).map (·.whole)).map .matched := by
  have hranges : (Matcher.regex r).matchRanges t = _ := Matcher.ranges_regex r t .matchesOnly
  rw [hranges, Regex.shown]
  cases r.occurrences t with
  | nil => exact Selection.restrict_nil
  | cons m ms => exact Selection.restrict_layout_matchesOnly 0 t.length 0 (m :: ms)

/-- A literal matches the occurrences that a scan from the left comes to if its grammar compiles, as that
of a text of no more than 320000 bytes does, and nothing otherwise. -/
theorem literal_scans (s t : Text) :
    (∀ r, Regex.compile? (escapePattern s) (.ofCase true) = some r →
      literal s true = .regex r ∧
        ∃ ranges, Scans s t 0 ranges ∧ (literal s true).matchRanges t = ranges.map .matched) ∧
    (Regex.compile? (escapePattern s) (.ofCase true) = none → literal s true = .nothing) ∧
    (s ≠ [] → s.byteLength ≤ 320000 →
      ∃ r, Regex.compile? (escapePattern s) (.ofCase true) = some r) := by
  refine ⟨fun r hr => ?_, compiled_of_compile?_eq_none, fun hs hbytes => ?_⟩
  · have hs : s ≠ [] := by
      rintro rfl
      cases hr
    have hliteral : literal s true = .regex r := compiled_of_compile? hr
    rw [escapePattern_eq_flatMap] at hr
    obtain rfl := eq_rowRegex_of_compile? (Item.chars_ne_nil hs) (Item.isEasy_chars s) hr
    have hscan := scans_searchAll hs t (show t.length < 0 + (t.length + 2) by omega) none
    refine ⟨hliteral, _, hscan, ?_⟩
    rw [hliteral, matchRanges_regex, Regex.occurrences_eq_inText]
    exact congrArg (List.map Fragment.matched) List.map_map
  · rw [escapePattern_eq_flatMap]
    refine exists_compile?_row (Item.chars_ne_nil hs) (Item.isEasy_chars s) fun backward => ?_
    rw [Item.sum_bytes_chars, Regular.sizeLimit]
    omega

/-! ### Words -/

/-- The items of a word between boundaries. -/
lemma rowLeads_bounded :
    Item.RowLeads t (.boundary :: (Item.chars s ++ [.boundary])) i j ↔
      WordAt s t i ∧ j = i + s.length := by
  constructor
  · rintro ⟨_, ⟨⟨hi, hstart⟩, rfl⟩, hrest⟩
    obtain ⟨k, hchars, _, ⟨⟨-, hstop⟩, rfl⟩, rfl⟩ := (Item.rowLeads_append _ _).mp hrest
    obtain ⟨hoccurs, rfl⟩ := (Item.rowLeads_chars hi).mp hchars
    exact ⟨⟨hoccurs, hstart, hstop⟩, rfl⟩
  · rintro ⟨⟨hoccurs, hstart, hstop⟩, rfl⟩
    have hend := hoccurs.add_length_le
    have hi := hoccurs.le_length
    refine ⟨i, ⟨⟨hi, hstart⟩, rfl⟩, (Item.rowLeads_append _ _).mpr ⟨i + s.length, ?_, ?_⟩⟩
    · exact (Item.rowLeads_chars hi).mpr ⟨hoccurs, rfl⟩
    · exact ⟨i + s.length, ⟨⟨hend, hstop⟩, rfl⟩, rfl⟩

/-- The regular expression for a word. -/
def wordRegex (s : Text) : Regex where
  grammar := (Item.boundary :: (Item.chars s ++ [.boundary])).flatMap Item.text
  flags := .ofCase true
  program := Item.boundedProgram (Item.chars s)

lemma word_eq (s : Text) : word s true = .regex (wordRegex s) := by
  have hgrammar : "\\b".toList ++ escapePattern s ++ "\\b".toList =
      (Item.boundary :: (Item.chars s ++ [.boundary])).flatMap Item.text := by
    rw [escapePattern_eq_flatMap, List.flatMap_cons, List.flatMap_append, List.append_assoc]
    rfl
  have hne : (Item.boundary :: (Item.chars s ++ [.boundary])).flatMap Item.text ≠ [] :=
    Item.flatMap_text_ne_nil (List.cons_ne_nil _ _)
  have hcompile : Regex.compile? ((Item.boundary :: (Item.chars s ++ [.boundary])).flatMap Item.text)
      (.ofCase true) = some (wordRegex s) := by
    have hdirective : (EngineFlags.ofCase true).directive = [] := rfl
    rw [compile?_of_ne_nil hne, hdirective, List.nil_append, Item.ofGrammar?_bounded]
    rfl
  rw [word, hgrammar]
  exact compiled_of_compile? hcompile

/-- The first word within reach of the search is located. -/
lemma locate_wordRegex (s t : Text) :
    (∀ i, ¬(i ≤ Run.retryLimit ∧ WordAt s t i)) ∧ (wordRegex s).locate t = none ∨
      ∃ i, (i ≤ Run.retryLimit ∧ IsLeast {i | WordAt s t i} i) ∧
        (wordRegex s).locate t = some (.ofBounds i (i + s.length)) := by
  have hrows : ∀ x ∈ Item.boundary :: (Item.chars s ++ [.boundary]), x.isRun = false := by
    intro x hx
    rcases List.mem_cons.mp hx with rfl | hx
    · rfl
    · rcases List.mem_append.mp hx with hx | hx
      · exact Item.isRun_of_mem_chars x hx
      · rw [List.mem_singleton.mp hx]
        rfl
  have hnowhere {i : ℕ} (h : ∀ j, ¬Item.RowLeads t (.boundary :: (Item.chars s ++ [.boundary])) i j) :
      ¬WordAt s t i := fun hword => h _ (rowLeads_bounded.mpr ⟨hword, rfl⟩)
  rcases Item.findPlanned_row t 0 (t.toArray.size + 1 - 0) hrows
    (Item.boundedProgram (Item.chars s)) (Nat.zero_le _) with
    ⟨hnone, hmissing⟩ | ⟨i, j, -, -, hlimit, hleast, hlead, hfound⟩
  · refine Or.inl ⟨fun i ⟨hi, hword⟩ => ?_, Regex.locate_of_missing hmissing⟩
    have hle := hword.1.le_length
    rw [List.size_toArray] at hnone
    exact hnowhere (hnone i (Nat.zero_le i) (by omega) hi) hword
  · obtain ⟨hword, rfl⟩ := rowLeads_bounded.mp hlead
    refine Or.inr ⟨i, ⟨hlimit, hword, fun k hk => ?_⟩, ?_⟩
    · by_contra hlt
      exact hnowhere (hleast k (Nat.zero_le k) (by omega)) hk
    · have hlocate := Regex.locate_of_found (r := wordRegex s) hfound hword.1.add_length_le
      have hstart : min i (i + s.length) = i := by omega
      rw [hlocate]
      simp only [Program.matchOfState, hstart]

/-- A word is located where it first stands, if that is within reach of the search. -/
theorem word_locates (s t : Text) :
    (∀ range, (word s true).locate t = some range ↔
      ∃ i ≤ Run.retryLimit, IsLeast {i | WordAt s t i} i ∧ range = .ofBounds i (i + s.length)) ∧
    ((word s true).locate t = none ↔ ∀ i ≤ Run.retryLimit, ¬WordAt s t i) := by
  have hlocated := located_iff (fun i hi => ⟨hi.1, hi.2.1⟩) (fun i j hi hj => hi.2.unique hj.2)
    (locate_wordRegex s t)
  simp only [and_assoc, not_and] at hlocated
  rw [word_eq, Matcher.locate]
  exact hlocated

/-! ### Both -/

/-- A literal whose grammar compiles matches the occurrences that a scan from the left comes to; one
whose grammar does not compile matches nothing. Every text of no more than 320000 bytes compiles, the
empty one apart. A word is located where it first stands, if that is within reach of the search. -/
theorem literal_searches (s t : Text) :
    ((∀ r, Regex.compile? (escapePattern s) (.ofCase true) = some r →
        literal s true = .regex r ∧
          ∃ ranges, Scans s t 0 ranges ∧ (literal s true).matchRanges t = ranges.map .matched) ∧
      (Regex.compile? (escapePattern s) (.ofCase true) = none → literal s true = .nothing) ∧
      (s ≠ [] → s.byteLength ≤ 320000 →
        ∃ r, Regex.compile? (escapePattern s) (.ofCase true) = some r)) ∧
    (∀ range, (word s true).locate t = some range ↔
      ∃ i ≤ Run.retryLimit, IsLeast {i | WordAt s t i} i ∧ range = .ofBounds i (i + s.length)) ∧
    ((word s true).locate t = none ↔ ∀ i ≤ Run.retryLimit, ¬WordAt s t i) :=
  ⟨literal_scans s t, word_locates s t⟩

/-- Of two occurrences of `a.a` that share a letter the first is matched, and the word `a` is not located
in a longer word. -/
theorem literal_searches_overlapping :
    "a.a".toList ≠ [] ∧ Text.byteLength "a.a".toList ≤ 320000 ∧
      (literal "a.a".toList true).matchRanges "a.a.a".toList = [.matched (.ofBounds 0 3)] ∧
      (word "a".toList true).locate "ba a".toList = some (.ofBounds 3 4) := by
  have hne : "a.a".toList ≠ [] := by decide
  have hbytes : Text.byteLength "a.a".toList ≤ 320000 := by decide
  refine ⟨hne, hbytes, ?_, ?_⟩
  · obtain ⟨hlaw, -, haccepted⟩ := (literal_searches "a.a".toList "a.a.a".toList).1
    obtain ⟨r, hr⟩ := haccepted hne hbytes
    obtain ⟨-, ranges, hscans, hranges⟩ := hlaw r hr
    have hscan : Scans "a.a".toList "a.a.a".toList 0 [.ofBounds 0 3] := by
      refine .next le_rfl ⟨[], ".a".toList, rfl, rfl⟩ (fun m _ hm => absurd hm (Nat.not_lt_zero m))
        (.stop fun k hk hoccurs => ?_)
      have hend := hoccurs.add_length_le
      have hlength : "a.a.a".toList.length = 5 ∧ "a.a".toList.length = 3 := by decide
      omega
    rw [hranges, hscans.unique hscan]
    rfl
  · have hleast : IsLeast {i | WordAt "a".toList "ba a".toList i} 3 := by
      refine ⟨⟨⟨"ba ".toList, [], rfl, rfl⟩, ?_, ?_⟩, fun i hi => ?_⟩
      · unfold Text.IsWordBoundary; decide
      · unfold Text.IsWordBoundary; decide
      · obtain ⟨hoccurs, hstart, -⟩ := hi
        by_contra hlt
        have hget := (Text.OccursAt.cons_iff.mp hoccurs).1
        obtain rfl | rfl | rfl : i = 0 ∨ i = 1 ∨ i = 2 := by omega
        · exact absurd hget (by decide)
        · unfold Text.IsWordBoundary at hstart
          exact absurd hstart (by decide)
        · exact absurd hget (by decide)
    exact ((literal_searches "a".toList "ba a".toList).2.1 _).mpr ⟨3, by decide, hleast, rfl⟩

lemma scans_self (hs : s ≠ []) : Scans s s 0 [.ofBounds 0 s.length] := by
  have hpos := List.length_pos_iff.mpr hs
  have hend : Scans s s (0 + s.length) [] := by
    refine .stop fun k hk hoccurs => ?_
    have hle := hoccurs.add_length_le
    omega
  have hself : s.OccursAt s 0 := ⟨[], [], by simp, rfl⟩
  simpa using Scans.next le_rfl hself (fun m _ hm => absurd hm (Nat.not_lt_zero m)) hend

lemma wordAt_behind_blanks (n : ℕ) :
    WordAt ['a'] (List.replicate n ' ' ++ ['a']) i ↔ i = n := by
  have hlength : (List.replicate n ' ').length = n := List.length_replicate
  constructor
  · rintro ⟨hoccurs, -⟩
    have hget := (Text.OccursAt.cons_iff.mp hoccurs).1
    have hend := hoccurs.add_length_le
    rw [List.length_append, hlength] at hend
    by_contra hne
    have hlt : i < n := by
      simp only [List.length_singleton] at hend
      omega
    rw [List.getElem?_append_left (by rwa [hlength]), List.getElem?_replicate, if_pos hlt] at hget
    exact absurd hget (by decide)
  · rintro rfl
    have hspace : isWordChar ' ' = false := by decide
    have hletter : isWordChar 'a' = true := by decide
    refine ⟨⟨List.replicate i ' ', [], by simp, hlength⟩, ?_, ?_⟩
    · have hbefore : ((List.replicate i ' ').getLast?.any isWordChar) = false := by
        cases i <;> simp [List.getLast?_replicate, hspace]
      rw [Text.IsWordBoundary, List.take_left' hlength, List.drop_left' hlength, hbefore]
      simp [hletter]
    · have hall : i + 1 = (List.replicate i ' ' ++ ['a']).length := by simp
      rw [Text.IsWordBoundary, List.length_singleton, hall, List.take_length, List.drop_length]
      simp [hletter]

lemma literal_of_long (hlong : Regular.sizeLimit < 32 * s.byteLength) : literal s true = .nothing := by
  have hs : s ≠ [] := by
    rintro rfl
    exact absurd hlong (by decide)
  rw [← Item.sum_bytes_chars false] at hlong
  apply compiled_of_compile?_eq_none
  rw [escapePattern_eq_flatMap]
  exact compile?_row_eq_none (Item.chars_ne_nil hs) (Item.isEasy_chars s) hlong

/-- A text of a third of a million letters is too long to be searched for, even in itself, and a word
behind more than a million characters is out of reach. -/
theorem literal_searches_limits :
    Scans (List.replicate 327681 'a') (List.replicate 327681 'a') 0 [.ofBounds 0 327681] ∧
      literal (List.replicate 327681 'a') true = .nothing ∧
      IsLeast {i | WordAt ['a'] (List.replicate 1000001 ' ' ++ ['a']) i} 1000001 ∧
      (word ['a'] true).locate (List.replicate 1000001 ' ' ++ ['a']) = none := by
  have hword (i : ℕ) := wordAt_behind_blanks (i := i) 1000001
  refine ⟨?_, ?_, ⟨(hword _).mpr rfl, fun i hi => ((hword i).mp hi).ge⟩, ?_⟩
  · have hscan := scans_self (s := List.replicate 327681 'a') (List.cons_ne_nil _ _)
    rwa [List.length_replicate] at hscan
  · apply literal_of_long
    rw [Text.byteLength_replicate]
    decide
  · rcases locate_wordRegex ['a'] (List.replicate 1000001 ' ' ++ ['a']) with
      ⟨-, hnone⟩ | ⟨i, ⟨hlimit, hleast⟩, -⟩
    · rw [word_eq, Matcher.locate, hnone]
    · obtain rfl := (hword i).mp hleast.1
      exact absurd hlimit (by decide)

end PatternAlgebra.Search
