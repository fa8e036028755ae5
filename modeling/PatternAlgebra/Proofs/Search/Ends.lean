import PatternAlgebra.Proofs.Search.Rows

/-! Searches at the ends of a target. White space before a text at the start, or behind one at the end,
is part of the match. Where the text itself begins or ends with white space, the two compete for it:
a search at the start gives back as little as it has to, and one at the end finds the text as early
as it can. -/
namespace PatternAlgebra.Search

open Engine

variable {s t : Text} {i j k : ℕ}

/-- Whether `s` stands in `t` at a position, behind nothing but white space. -/
def BeginsAt (s t : Text) (k : ℕ) : Prop :=
  (∀ c ∈ t.take k, isSpaceChar c = true) ∧ s.OccursAt t k

/-- Whether `s` stands in `t` at a position, before nothing but white space. -/
def EndsFrom (s t : Text) (i : ℕ) : Prop :=
  s.OccursAt t i ∧ ∀ c ∈ t.drop (i + s.length), isSpaceChar c = true

/-! ### At the start -/

/-- The items of a text at the start of a target. -/
def startItems (s : Text) : List Item := .start :: .run .space :: Item.chars s

/-- The items of a text at the end of a target. -/
def endItems (s : Text) : List Item := Item.chars s ++ [.run .space, .stop]

lemma rowLeads_startItems :
    Item.RowLeads t (startItems s) i j ↔ i = 0 ∧ ∃ k, BeginsAt s t k ∧ j = k + s.length := by
  constructor
  · rintro ⟨_, ⟨rfl, rfl⟩, k, hrun, hchars⟩
    obtain ⟨u, hu, hall, rfl⟩ := (CharSet.run_iff_occursAt (Nat.zero_le _)).mp hrun
    have hlength : u.length ≤ t.length := by simpa using hu.add_length_le
    rw [Nat.zero_add] at hchars
    obtain ⟨hoccurs, rfl⟩ := (Item.rowLeads_chars hlength).mp hchars
    obtain ⟨-, v, hv⟩ := Text.OccursAt.iff_drop.mp hu
    refine ⟨rfl, u.length, ⟨?_, hoccurs⟩, rfl⟩
    rw [← List.drop_zero (l := t), ← hv, List.take_left]
    exact hall
  · rintro ⟨rfl, k, ⟨hall, hoccurs⟩, rfl⟩
    have hk := hoccurs.le_length
    have hspace : Text.OccursAt (t.take k) t 0 := ⟨[], t.drop k, by simp, rfl⟩
    have hrun : Relation.ReflTransGen (CharSet.Takes .space t) 0 k :=
      (CharSet.run_iff_occursAt (Nat.zero_le _)).mpr
        ⟨t.take k, hspace, hall, by rw [List.length_take_of_le hk, Nat.zero_add]⟩
    exact ⟨0, ⟨rfl, rfl⟩, k, hrun, (Item.rowLeads_chars hk).mpr ⟨hoccurs, rfl⟩⟩

lemma rowLeads_endItems (hi : i ≤ t.length) :
    Item.RowLeads t (endItems s) i j ↔ EndsFrom s t i ∧ j = t.length := by
  rw [endItems, Item.rowLeads_append]
  constructor
  · rintro ⟨k, hchars, m, hrun, _, ⟨hstop, rfl⟩, rfl⟩
    obtain ⟨hoccurs, rfl⟩ := (Item.rowLeads_chars hi).mp hchars
    obtain ⟨u, hu, hall, rfl⟩ := (CharSet.run_iff_occursAt hoccurs.add_length_le).mp hrun
    obtain ⟨-, hprefix⟩ := Text.OccursAt.iff_drop.mp hu
    have hrest : u = t.drop (i + s.length) := by
      refine hprefix.eq_of_length ?_
      rw [List.length_drop]
      omega
    exact ⟨⟨hoccurs, hrest ▸ hall⟩, hstop⟩
  · rintro ⟨⟨hoccurs, hall⟩, rfl⟩
    have hend := hoccurs.add_length_le
    have hrest : Text.OccursAt (t.drop (i + s.length)) t (i + s.length) :=
      Text.OccursAt.iff_drop.mpr ⟨hend, List.prefix_refl _⟩
    have hrun : Relation.ReflTransGen (CharSet.Takes .space t) (i + s.length) t.length :=
      (CharSet.run_iff_occursAt hend).mpr ⟨_, hrest, hall, by rw [List.length_drop]; omega⟩
    refine ⟨_, (Item.rowLeads_chars hi).mpr ⟨hoccurs, rfl⟩, t.length, hrun, t.length, ⟨rfl, rfl⟩, rfl⟩

lemma startingGrammar_eq (s : Text) :
    "^\\s*".toList ++ escapePattern s = (startItems s).flatMap Item.text := by
  rw [escapePattern_eq_flatMap]
  rfl

lemma endingGrammar_eq (s : Text) :
    escapePattern s ++ "\\s*$".toList = (endItems s).flatMap Item.text := by
  rw [escapePattern_eq_flatMap, endItems, List.flatMap_append]
  rfl

lemma startItems_ne_nil (s : Text) : startItems s ≠ [] := List.cons_ne_nil _ _

lemma endItems_ne_nil (s : Text) : endItems s ≠ [] := by simp [endItems]

lemma isEasy_startItems (s : Text) : (startItems s).all Item.isEasy = true := by
  rw [startItems, List.all_cons, List.all_cons, Item.isEasy_chars]
  rfl

lemma isEasy_endItems (s : Text) : (endItems s).all Item.isEasy = true := by
  rw [endItems, List.all_append, Item.isEasy_chars]
  rfl

/-- How many bytes the items for white space and for an end take. -/
lemma bytes_space_add_bytes_stop (backward : Bool) :
    Item.bytes backward (.run .space) + Item.bytes backward .stop ≤ 752 := by
  cases backward <;> decide

lemma sum_bytes_startItems_le (backward : Bool) (s : Text) :
    ((startItems s).map (Item.bytes backward)).sum ≤ 32 * s.byteLength + 752 := by
  have hends := bytes_space_add_bytes_stop backward
  have hstart : Item.bytes backward .start = Item.bytes backward .stop := rfl
  rw [startItems, List.map_cons, List.map_cons, List.sum_cons, List.sum_cons, Item.sum_bytes_chars]
  omega

lemma sum_bytes_endItems_le (backward : Bool) (s : Text) :
    ((endItems s).map (Item.bytes backward)).sum ≤ 32 * s.byteLength + 752 := by
  have hends := bytes_space_add_bytes_stop backward
  rw [endItems, List.map_append, List.sum_append, Item.sum_bytes_chars]
  simp only [List.map_cons, List.map_nil, List.sum_cons, List.sum_nil]
  omega

lemma locate_startItems (s t : Text) :
    (∀ k, ¬BeginsAt s t k) ∧ (rowRegex (startItems s)).locate t = none ∨
      ∃ k, IsGreatest {k | BeginsAt s t k} k ∧
        (rowRegex (startItems s)).locate t = some (.ofBounds 0 (k + s.length)) := by
  rcases locate_row (startItems s) t with ⟨hnone, hlocate⟩ | ⟨i, p, -, -, hlead, hfirst, hlocate⟩
  · refine Or.inl ⟨fun k hk => ?_, hlocate⟩
    exact hnone 0 (Nat.zero_le _) _ (rowLeads_startItems.mpr ⟨rfl, k, hk, rfl⟩)
  · obtain ⟨rfl, k, hk, hp⟩ := rowLeads_startItems.mp hlead
    refine Or.inr ⟨k, ⟨hk, fun m hm => ?_⟩, hp ▸ hlocate⟩
    have hgreedy := Context.le_of_first?_run Item.isRun_of_mem_chars hfirst
      (rowLeads_startItems.mpr ⟨rfl, m, hm, rfl⟩)
    omega

lemma locate_endItems (s t : Text) :
    (∀ i, ¬EndsFrom s t i) ∧ (rowRegex (endItems s)).locate t = none ∨
      ∃ i, IsLeast {i | EndsFrom s t i} i ∧
        (rowRegex (endItems s)).locate t = some (.ofBounds i t.length) := by
  rcases locate_row (endItems s) t with ⟨hnone, hlocate⟩ | ⟨i, p, hi, hleast, hlead, -, hlocate⟩
  · refine Or.inl ⟨fun i hends => ?_, hlocate⟩
    have hi := hends.1.le_length
    exact hnone i hi _ ((rowLeads_endItems hi).mpr ⟨hends, rfl⟩)
  · obtain ⟨hends, hp⟩ := (rowLeads_endItems hi).mp hlead
    refine Or.inr ⟨i, ⟨hends, fun k hk => ?_⟩, hp ▸ hlocate⟩
    by_contra hlt
    exact hleast k (by omega) _ ((rowLeads_endItems (by omega)).mpr ⟨hk, rfl⟩)

/-- If its grammar compiles, a text at the start of a target is located with the white space before it,
where that is longest. -/
theorem startingWith_locates (s t : Text) :
    (∀ r, Regex.compile? ("^\\s*".toList ++ escapePattern s) (.ofCase true) = some r →
      startingWith s true = .regex r ∧
        (∀ range, (startingWith s true).locate t = some range ↔
          ∃ k, IsGreatest {k | BeginsAt s t k} k ∧ range = .ofBounds 0 (k + s.length)) ∧
        ((startingWith s true).locate t = none ↔ ∀ k, ¬BeginsAt s t k)) ∧
    (Regex.compile? ("^\\s*".toList ++ escapePattern s) (.ofCase true) = none →
      startingWith s true = .nothing) ∧
    (s.byteLength ≤ 320000 →
      ∃ r, Regex.compile? ("^\\s*".toList ++ escapePattern s) (.ofCase true) = some r) := by
  refine ⟨fun r hr => ?_, compiled_of_compile?_eq_none, fun hbytes => ?_⟩
  · have hstarting : startingWith s true = .regex r := compiled_of_compile? hr
    rw [startingGrammar_eq] at hr
    obtain rfl := eq_rowRegex_of_compile? (startItems_ne_nil s) (isEasy_startItems s) hr
    rw [hstarting, Matcher.locate]
    exact ⟨rfl, located_iff (fun k hk => hk.1) (fun k m hk hm => hk.unique hm)
      (locate_startItems s t)⟩
  · rw [startingGrammar_eq]
    refine exists_compile?_row (startItems_ne_nil s) (isEasy_startItems s) fun backward => ?_
    have hle := sum_bytes_startItems_le backward s
    rw [Regular.sizeLimit]
    omega

/-- If its grammar compiles, a text at the end of a target is located with all that follows where it
first stands before white space only. -/
theorem endingWith_locates (s t : Text) :
    (∀ r, Regex.compile? (escapePattern s ++ "\\s*$".toList) (.ofCase true) = some r →
      endingWith s true = .regex r ∧
        (∀ range, (endingWith s true).locate t = some range ↔
          ∃ i, IsLeast {i | EndsFrom s t i} i ∧ range = .ofBounds i t.length) ∧
        ((endingWith s true).locate t = none ↔ ∀ i, ¬EndsFrom s t i)) ∧
    (Regex.compile? (escapePattern s ++ "\\s*$".toList) (.ofCase true) = none →
      endingWith s true = .nothing) ∧
    (s.byteLength ≤ 320000 →
      ∃ r, Regex.compile? (escapePattern s ++ "\\s*$".toList) (.ofCase true) = some r) := by
  refine ⟨fun r hr => ?_, compiled_of_compile?_eq_none, fun hbytes => ?_⟩
  · have hending : endingWith s true = .regex r := compiled_of_compile? hr
    rw [endingGrammar_eq] at hr
    obtain rfl := eq_rowRegex_of_compile? (endItems_ne_nil s) (isEasy_endItems s) hr
    rw [hending, Matcher.locate]
    exact ⟨rfl, located_iff (fun i hi => hi.1) (fun i k hi hk => hi.unique hk) (locate_endItems s t)⟩
  · rw [endingGrammar_eq]
    refine exists_compile?_row (endItems_ne_nil s) (isEasy_endItems s) fun backward => ?_
    have hle := sum_bytes_endItems_le backward s
    rw [Regular.sizeLimit]
    omega

/-- A text at the start of a target is located with the white space before it, where that is longest,
and a text at the end with all that follows where it first stands before white space only. That holds
for every text whose grammar compiles, as it does for one of no more than 320000 bytes. -/
theorem end_searches (s t : Text) :
    ((∀ r, Regex.compile? ("^\\s*".toList ++ escapePattern s) (.ofCase true) = some r →
        startingWith s true = .regex r ∧
          (∀ range, (startingWith s true).locate t = some range ↔
            ∃ k, IsGreatest {k | BeginsAt s t k} k ∧ range = .ofBounds 0 (k + s.length)) ∧
          ((startingWith s true).locate t = none ↔ ∀ k, ¬BeginsAt s t k)) ∧
      (Regex.compile? ("^\\s*".toList ++ escapePattern s) (.ofCase true) = none →
        startingWith s true = .nothing) ∧
      (s.byteLength ≤ 320000 →
        ∃ r, Regex.compile? ("^\\s*".toList ++ escapePattern s) (.ofCase true) = some r)) ∧
    (∀ r, Regex.compile? (escapePattern s ++ "\\s*$".toList) (.ofCase true) = some r →
        endingWith s true = .regex r ∧
          (∀ range, (endingWith s true).locate t = some range ↔
            ∃ i, IsLeast {i | EndsFrom s t i} i ∧ range = .ofBounds i t.length) ∧
          ((endingWith s true).locate t = none ↔ ∀ i, ¬EndsFrom s t i)) ∧
      (Regex.compile? (escapePattern s ++ "\\s*$".toList) (.ofCase true) = none →
        endingWith s true = .nothing) ∧
      (s.byteLength ≤ 320000 →
        ∃ r, Regex.compile? (escapePattern s ++ "\\s*$".toList) (.ofCase true) = some r) :=
  ⟨startingWith_locates s t, endingWith_locates s t⟩

/-- A blank at the start of ` b` is the last of three, and one at the end of `b ` the first of three. -/
theorem end_searches_blanks :
    Text.byteLength " b".toList ≤ 320000 ∧
      (startingWith " b".toList true).locate "   bc".toList = some (.ofBounds 0 4) ∧
      (endingWith "b ".toList true).locate "ab   ".toList = some (.ofBounds 1 5) := by
  have hbytes : Text.byteLength " b".toList ≤ 320000 := by decide
  refine ⟨hbytes, ?_, ?_⟩
  · obtain ⟨hlaw, -, haccepted⟩ := (end_searches " b".toList "   bc".toList).1
    obtain ⟨r, hr⟩ := haccepted hbytes
    have hblanks : ∀ c ∈ "   bc".toList.take 2, isSpaceChar c = true :=
      List.all_eq_true.mp (by decide +kernel : ("   bc".toList.take 2).all isSpaceChar = true)
    refine ((hlaw r hr).2.1 _).mpr
      ⟨2, ⟨⟨hblanks, "  ".toList, ['c'], rfl, rfl⟩, fun k hk => ?_⟩, rfl⟩
    have hend := hk.2.add_length_le
    have hlength : "   bc".toList.length = 5 ∧ " b".toList.length = 2 := by decide
    by_contra hlt
    obtain rfl : k = 3 := by omega
    exact absurd (Text.OccursAt.cons_iff.mp hk.2).1 (by decide)
  · obtain ⟨hlaw, -, haccepted⟩ := (end_searches "b ".toList "ab   ".toList).2
    obtain ⟨r, hr⟩ := haccepted (by decide)
    have hblanks : ∀ c ∈ "ab   ".toList.drop (1 + "b ".toList.length), isSpaceChar c = true :=
      List.all_eq_true.mp
        (by decide +kernel : ("ab   ".toList.drop (1 + "b ".toList.length)).all isSpaceChar = true)
    refine ((hlaw r hr).2.1 _).mpr
      ⟨1, ⟨⟨⟨['a'], "  ".toList, rfl, rfl⟩, hblanks⟩, fun i hi => ?_⟩, rfl⟩
    by_contra hlt
    obtain rfl : i = 0 := by omega
    exact absurd (Text.OccursAt.cons_iff.mp hi.1).1 (by decide)

/-- A text that is too long to be searched for is missed at the ends of itself. -/
lemma missed_ends_of_long (hlong : Regular.sizeLimit < 32 * s.byteLength) :
    IsGreatest {k | BeginsAt s s k} 0 ∧ (startingWith s true).locate s = none ∧
      IsLeast {i | EndsFrom s s i} 0 ∧ (endingWith s true).locate s = none := by
  have hself : Text.OccursAt s s 0 := ⟨[], [], by simp, rfl⟩
  have hstart : Regular.sizeLimit < ((startItems s).map (Item.bytes false)).sum := by
    simp only [startItems, List.map_cons, List.sum_cons, Item.sum_bytes_chars]
    omega
  have hstop : Regular.sizeLimit < ((endItems s).map (Item.bytes false)).sum := by
    simp only [endItems, List.map_append, List.sum_append, Item.sum_bytes_chars]
    omega
  have hstarting : startingWith s true = .nothing := by
    apply compiled_of_compile?_eq_none
    rw [startingGrammar_eq]
    exact compile?_row_eq_none (startItems_ne_nil s) (isEasy_startItems s) hstart
  have hending : endingWith s true = .nothing := by
    apply compiled_of_compile?_eq_none
    rw [endingGrammar_eq]
    exact compile?_row_eq_none (endItems_ne_nil s) (isEasy_endItems s) hstop
  refine ⟨⟨⟨by simp, hself⟩, fun k hk => ?_⟩, ?_, ⟨⟨hself, by simp⟩, fun i _ => Nat.zero_le i⟩, ?_⟩
  · have hend := hk.2.add_length_le
    omega
  · rw [hstarting, Matcher.locate]
  · rw [hending, Matcher.locate]

/-- A text of a third of a million letters is not even found at the ends of itself. -/
theorem end_searches_limit :
    IsGreatest {k | BeginsAt (List.replicate 327681 'a') (List.replicate 327681 'a') k} 0 ∧
      (startingWith (List.replicate 327681 'a') true).locate (List.replicate 327681 'a') = none ∧
      IsLeast {i | EndsFrom (List.replicate 327681 'a') (List.replicate 327681 'a') i} 0 ∧
      (endingWith (List.replicate 327681 'a') true).locate (List.replicate 327681 'a') = none := by
  apply missed_ends_of_long
  rw [Text.byteLength_replicate]
  decide

end PatternAlgebra.Search
