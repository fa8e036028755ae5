import PatternAlgebra.Proofs.Matcher.Locate
import PatternAlgebra.Proofs.Search.GlobGrammar
import PatternAlgebra.Proofs.Search.Rows

/-! Searches by globs. The grammar of a glob without sets is a row of items, and in a target of one
line the row leads over the parts that match the glob, from their start to their end. -/
namespace PatternAlgebra.Search

open Engine

variable {g t : Text} {i j : ℕ}

/-- Whether a text matches a glob without sets as a whole. -/
def GlobMatches : (glob text : Text) → Prop
  | [], v => v = []
  | '?' :: g, v => ∃ c u, v = c :: u ∧ GlobMatches g u
  | '*' :: g, v => ∃ u w, v = u ++ w ∧ GlobMatches g w
  | c :: g, v => ∃ u, v = c :: u ∧ GlobMatches g u

/-- Whether a part of `t` that matches the glob begins at position `i`. -/
def GlobAt (g t : Text) (i : ℕ) : Prop := ∃ v : Text, v.OccursAt t i ∧ GlobMatches g v

/-- The item for a character of a glob. -/
def globItem (c : Char) : Item :=
  if c = '?' then .one .any else if c = '*' then .run .any else .one (.char c)

lemma text_globItem (c : Char) : (globItem c).text = globSign c := by
  unfold globItem globSign
  split_ifs
  · rfl
  · rfl
  · exact (escapePattern_eq_escapeEach [c]).symm

lemma bytes_globItem_le (backward : Bool) (c : Char) : (globItem c).bytes backward ≤ 1040 := by
  unfold globItem
  split_ifs
  · cases backward <;> decide
  · cases backward <;> decide
  · have hle := c.utf8Size_le_four
    have hbytes : (Item.one (.char c)).bytes backward = 32 * c.utf8Size := rfl
    omega

lemma sum_bytes_glob_le (backward : Bool) (g : Text) :
    ((g.map globItem).map (Item.bytes backward)).sum ≤ 1040 * g.length := by
  have hle := List.sum_le_card_nsmul ((g.map globItem).map (Item.bytes backward)) 1040 fun n hn => by
    obtain ⟨i, hi, rfl⟩ := List.mem_map.mp hn
    obtain ⟨c, -, rfl⟩ := List.mem_map.mp hi
    exact bytes_globItem_le backward c
  simpa [Nat.mul_comm] using hle

lemma map_globItem_ne_nil (hne : g ≠ []) : g.map globItem ≠ [] := by simpa using hne

lemma isEasy_map_globItem (g : Text) : (g.map globItem).all Item.isEasy = true := by
  have heasy (c : Char) : (globItem c).isEasy = true := by
    unfold globItem
    split_ifs <;> rfl
  simp [heasy]

lemma flatMap_globSign (g : Text) : g.flatMap globSign = (g.map globItem).flatMap Item.text := by
  rw [List.flatMap_map]
  exact congrArg (g.flatMap ·) (funext fun c => (text_globItem c).symm)

/-- The matcher for a glob without sets. -/
lemma glob_eq (hg : '[' ∉ g) : glob g true = compiled (g.flatMap globSign) (.ofCase true) := by
  rw [glob, globGrammar_eq hg]
  rfl

/-! ### Language -/

lemma globMatches_cons {c : Char} (hquestion : c ≠ '?') (hstar : c ≠ '*') (v : Text) :
    GlobMatches (c :: g) v ↔ ∃ u, v = c :: u ∧ GlobMatches g u := by
  rw [GlobMatches]
  · exact hquestion
  · exact hstar

/-- In a text of one line any character can be taken. -/
lemma contains_any {c : Char} (ht : '\n' ∉ t) (hc : c ∈ t) : Atom.any.set.contains c = true := by
  have hne : c ≠ '\n' := ne_of_mem_of_not_mem hc ht
  simp [Atom.set, CharSet.contains, hne]

section Items

variable {set : CharSet} {P : Text → Prop} {L : ℕ → Prop}

/-- A member of a set, and then a text of some kind. -/
lemma exists_takes_iff
    (hL : ∀ k ≤ t.length, L k ↔ ∃ v : Text, v.OccursAt t k ∧ P v ∧ j = k + v.length) :
    (∃ k, set.Takes t i k ∧ L k) ↔ ∃ c u, set.contains c = true ∧
      Text.OccursAt (c :: u) t i ∧ P u ∧ j = i + (c :: u).length := by
  constructor
  · rintro ⟨_, ⟨c, hget, hc, rfl⟩, hrest⟩
    obtain ⟨u, hu, hp, rfl⟩ := (hL _ (List.getElem?_eq_some_iff.mp hget).1).mp hrest
    exact ⟨c, u, hc, Text.OccursAt.cons_iff.mpr ⟨hget, hu⟩, hp, by rw [List.length_cons]; omega⟩
  · rintro ⟨c, u, hc, hoccurs, hp, rfl⟩
    obtain ⟨hget, hu⟩ := Text.OccursAt.cons_iff.mp hoccurs
    have hle := (List.getElem?_eq_some_iff.mp hget).1
    exact ⟨i + 1, ⟨c, hget, hc, rfl⟩, (hL _ hle).mpr ⟨u, hu, hp, by rw [List.length_cons]; omega⟩⟩

/-- A run of members of a set, and then a text of some kind. -/
lemma exists_run_iff (hi : i ≤ t.length)
    (hL : ∀ k ≤ t.length, L k ↔ ∃ v : Text, v.OccursAt t k ∧ P v ∧ j = k + v.length) :
    (∃ k, Relation.ReflTransGen (set.Takes t) i k ∧ L k) ↔
      ∃ u w : Text, (∀ c ∈ u, set.contains c = true) ∧ Text.OccursAt (u ++ w) t i ∧ P w ∧
        j = i + (u ++ w).length := by
  constructor
  · rintro ⟨k, hrun, hrest⟩
    obtain ⟨u, hu, hall, rfl⟩ := (CharSet.run_iff_occursAt hi).mp hrun
    obtain ⟨w, hw, hp, rfl⟩ := (hL _ hu.add_length_le).mp hrest
    refine ⟨u, w, hall, Text.OccursAt.append_iff.mpr ⟨hu, hw⟩, hp, ?_⟩
    rw [List.length_append, Nat.add_assoc]
  · rintro ⟨u, w, hall, hoccurs, hp, rfl⟩
    obtain ⟨hu, hw⟩ := Text.OccursAt.append_iff.mp hoccurs
    refine ⟨i + u.length, (CharSet.run_iff_occursAt hi).mpr ⟨u, hu, hall, rfl⟩, ?_⟩
    exact (hL _ hu.add_length_le).mpr ⟨w, hw, hp, by rw [List.length_append, Nat.add_assoc]⟩

end Items

/-- A glob leads over the parts of a line that match it. -/
theorem rowLeads_glob (ht : '\n' ∉ t) (hi : i ≤ t.length) :
    Item.RowLeads t (g.map globItem) i j ↔
      ∃ v : Text, v.OccursAt t i ∧ GlobMatches g v ∧ j = i + v.length := by
  have hany {v : Text} {i : ℕ} (hv : v.OccursAt t i) : ∀ c ∈ v, Atom.any.set.contains c = true := by
    intro c hc
    obtain ⟨u, w, rfl, -⟩ := hv
    exact contains_any ht (by simp [hc])
  induction g generalizing i with
  | nil =>
    constructor
    · rintro rfl
      exact ⟨[], Text.OccursAt.nil_iff.mpr hi, rfl, rfl⟩
    · rintro ⟨_, -, rfl, rfl⟩
      rfl
  | cons c g ih =>
    by_cases hquestion : c = '?'
    · subst hquestion
      refine (exists_takes_iff fun k hk => ih hk).trans ?_
      constructor
      · rintro ⟨d, u, -, hoccurs, hmatches, rfl⟩
        exact ⟨d :: u, hoccurs, ⟨d, u, rfl, hmatches⟩, rfl⟩
      · rintro ⟨_, hoccurs, ⟨d, u, rfl, hmatches⟩, rfl⟩
        exact ⟨d, u, hany hoccurs d List.mem_cons_self, hoccurs, hmatches, rfl⟩
    by_cases hstar : c = '*'
    · subst hstar
      refine (exists_run_iff hi fun k hk => ih hk).trans ?_
      constructor
      · rintro ⟨u, w, -, hoccurs, hmatches, rfl⟩
        exact ⟨u ++ w, hoccurs, ⟨u, w, rfl, hmatches⟩, rfl⟩
      · rintro ⟨_, hoccurs, ⟨u, w, rfl, hmatches⟩, rfl⟩
        exact ⟨u, w, fun d hd => hany hoccurs d (List.mem_append_left w hd), hoccurs, hmatches, rfl⟩
    · have hitem : globItem c = .one (.char c) := by rw [globItem, if_neg hquestion, if_neg hstar]
      simp only [globMatches_cons hquestion hstar]
      rw [List.map_cons, hitem]
      refine (exists_takes_iff fun k hk => ih hk).trans ?_
      constructor
      · rintro ⟨d, u, hd, hoccurs, hmatches, rfl⟩
        obtain rfl : d = c := beq_iff_eq.mp hd
        exact ⟨d :: u, hoccurs, ⟨u, rfl, hmatches⟩, rfl⟩
      · rintro ⟨_, hoccurs, ⟨u, rfl, hmatches⟩, rfl⟩
        exact ⟨c, u, beq_self_eq_true c, hoccurs, hmatches, rfl⟩

/-- The first part of a line that matches a glob is located. -/
lemma locate_glob (ht : '\n' ∉ t) (g : Text) :
    (∀ i, ¬GlobAt g t i) ∧ (rowRegex (g.map globItem)).locate t = none ∨
      ∃ i, IsLeast {i | GlobAt g t i} i ∧
        ((rowRegex (g.map globItem)).locate t).map (·.start) = some i := by
  have hlength {i : ℕ} (h : GlobAt g t i) : i ≤ t.length := by
    obtain ⟨v, hv, -⟩ := h
    exact hv.le_length
  have hleads {i : ℕ} (h : GlobAt g t i) : ∃ j, Item.RowLeads t (g.map globItem) i j := by
    have hi := hlength h
    obtain ⟨v, hv, hmatches⟩ := h
    exact ⟨_, (rowLeads_glob ht hi).mpr ⟨v, hv, hmatches, rfl⟩⟩
  rcases locate_row (g.map globItem) t with ⟨hnone, hlocate⟩ | ⟨i, p, hi, hleast, hlead, -, hlocate⟩
  · refine Or.inl ⟨fun i h => ?_, hlocate⟩
    obtain ⟨j, hj⟩ := hleads h
    exact hnone i (hlength h) j hj
  · obtain ⟨v, hv, hmatches, -⟩ := (rowLeads_glob ht hi).mp hlead
    refine Or.inr ⟨i, ⟨⟨v, hv, hmatches⟩, fun k hk => ?_⟩, by rw [hlocate]; rfl⟩
    obtain ⟨j, hj⟩ := hleads hk
    by_contra hlt
    exact hleast k (not_le.mp hlt) j hj

lemma exists_globAt_iff (g t : Text) :
    (∃ i, GlobAt g t i) ↔ ∃ v, v <:+: t ∧ GlobMatches g v := by
  constructor
  · rintro ⟨_, v, ⟨u, w, rfl, rfl⟩, hmatches⟩
    exact ⟨v, List.infix_append u v w, hmatches⟩
  · rintro ⟨v, ⟨u, w, rfl⟩, hmatches⟩
    exact ⟨u.length, v, ⟨u, w, rfl, rfl⟩, hmatches⟩

/-- A glob without sets is written down character by character. If that compiles, it matches in a line
just the parts that it describes, and locates one that begins as early as any. A glob that does not
compile matches nothing. Every glob of no more than 9000 characters compiles, the empty one apart. -/
theorem glob_searches (hg : '[' ∉ g) :
    globGrammar g = some (g.flatMap globSign) ∧
      (∀ r, Regex.compile? (g.flatMap globSign) (.ofCase true) = some r →
        glob g true = .regex r ∧ ∀ t, '\n' ∉ t →
          ((glob g true).hasMatches t = true ↔ ∃ v, v <:+: t ∧ GlobMatches g v) ∧
            ∀ i, ((glob g true).locate t).map (·.start) = some i ↔ IsLeast {i | GlobAt g t i} i) ∧
      (Regex.compile? (g.flatMap globSign) (.ofCase true) = none → glob g true = .nothing) ∧
      (g ≠ [] → g.length ≤ 9000 →
        ∃ r, Regex.compile? (g.flatMap globSign) (.ofCase true) = some r) := by
  refine ⟨globGrammar_eq hg, fun r hr => ?_, fun hnone => ?_, fun hne hlength => ?_⟩
  · have hne : g ≠ [] := by
      rintro rfl
      cases hr
    have hglob : glob g true = .regex r := (glob_eq hg).trans (compiled_of_compile? hr)
    rw [flatMap_globSign] at hr
    obtain rfl := eq_rowRegex_of_compile? (map_globItem_ne_nil hne) (isEasy_map_globItem g) hr
    refine ⟨hglob, fun t ht => ?_⟩
    rw [hglob, Matcher.hasMatches_eq_isSome_locate, Matcher.locate, ← exists_globAt_iff]
    rcases locate_glob ht g with ⟨hnone, hlocate⟩ | ⟨i, hleast, hstart⟩
    · rw [hlocate]
      refine ⟨iff_of_false Bool.false_ne_true (not_exists.mpr hnone), fun i => ?_⟩
      exact iff_of_false (by simp) fun hi => hnone i hi.1
    · have hsome : ((rowRegex (g.map globItem)).locate t).isSome = true := by
        rw [← Option.isSome_map, hstart]
        rfl
      rw [hstart]
      refine ⟨iff_of_true hsome ⟨i, hleast.1⟩, fun k => ?_⟩
      rw [Option.some_inj]
      exact ⟨fun h => h ▸ hleast, hleast.unique⟩
  · exact (glob_eq hg).trans (compiled_of_compile?_eq_none hnone)
  · rw [flatMap_globSign]
    refine exists_compile?_row (map_globItem_ne_nil hne) (isEasy_map_globItem g) fun backward => ?_
    have hle := sum_bytes_glob_le backward g
    rw [Regular.sizeLimit]
    omega

/-- The glob `b?*` matches from the first `b` on that is not the last character. -/
theorem glob_searches_letters :
    '[' ∉ "b?*".toList ∧ "b?*".toList ≠ [] ∧ '\n' ∉ "abab".toList ∧
      globGrammar "b?*".toList = some "b..*".toList ∧
      (glob "b?*".toList true).hasMatches "abab".toList = true ∧
      ((glob "b?*".toList true).locate "abab".toList).map (·.start) = some 1 := by
  have hg : '[' ∉ "b?*".toList := by decide
  have hne : "b?*".toList ≠ [] := by decide
  have ht : '\n' ∉ "abab".toList := by decide
  have hleast : IsLeast {i | GlobAt "b?*".toList "abab".toList i} 1 := by
    constructor
    · exact ⟨"bab".toList, ⟨['a'], [], rfl, rfl⟩, "ab".toList, rfl, 'a', ['b'], rfl, ['b'], [], rfl, rfl⟩
    · rintro i ⟨_, hoccurs, u, rfl, -⟩
      rcases Nat.eq_zero_or_pos i with rfl | hpos
      · exact absurd (Text.OccursAt.cons_iff.mp hoccurs).1 (by decide)
      · exact hpos
  have hwritten : "b?*".toList.flatMap globSign = "b..*".toList := by decide +kernel
  obtain ⟨hgrammar, hsearch, -, haccepted⟩ := glob_searches hg
  obtain ⟨r, hr⟩ := haccepted hne (by decide)
  have hmatches := (hsearch r hr).2 _ ht
  rw [hwritten] at hgrammar
  refine ⟨hg, hne, ht, hgrammar, hmatches.1.mpr ?_, (hmatches.2 1).mpr hleast⟩
  exact (exists_globAt_iff _ _).mp ⟨1, hleast.1⟩

lemma le_bytes_globItem (c : Char) : 32 ≤ (globItem c).bytes false := by
  unfold globItem
  split_ifs
  · decide
  · decide
  · have hpos := c.utf8Size_pos
    have hbytes : (Item.one (.char c)).bytes false = 32 * c.utf8Size := rfl
    omega

/-- The engine refuses a glob of this length, whatever its characters are. -/
lemma glob_of_long (hg : '[' ∉ g) (hlong : Regular.sizeLimit < 32 * g.length) :
    glob g true = .nothing := by
  have hne : g ≠ [] := by
    rintro rfl
    exact absurd hlong (by decide)
  have hsum := List.card_nsmul_le_sum ((g.map globItem).map (Item.bytes false)) 32 fun n hn => by
    obtain ⟨i, hi, rfl⟩ := List.mem_map.mp hn
    obtain ⟨c, -, rfl⟩ := List.mem_map.mp hi
    exact le_bytes_globItem c
  simp only [List.length_map, smul_eq_mul] at hsum
  refine (glob_eq hg).trans (compiled_of_compile?_eq_none ?_)
  rw [flatMap_globSign]
  exact compile?_row_eq_none (map_globItem_ne_nil hne) (isEasy_map_globItem g) (by omega)

lemma globMatches_replicate (n : ℕ) :
    GlobMatches (List.replicate n 'a') (List.replicate n 'a') := by
  induction n with
  | zero => rfl
  | succ n ih => exact ⟨_, rfl, ih⟩

/-- A glob of a third of a million letters does not even match itself. -/
theorem glob_searches_limit :
    GlobMatches (List.replicate 327681 'a') (List.replicate 327681 'a') ∧
      (glob (List.replicate 327681 'a') true).hasMatches (List.replicate 327681 'a') = false := by
  have hg : '[' ∉ List.replicate 327681 'a' := fun h => by
    exact absurd (List.eq_of_mem_replicate h) (by decide)
  have hnothing : glob (List.replicate 327681 'a') true = .nothing := by
    refine glob_of_long hg ?_
    rw [List.length_replicate]
    decide
  refine ⟨globMatches_replicate 327681, ?_⟩
  rw [hnothing, Matcher.hasMatches_eq_isSome_locate, Matcher.locate]
  rfl

end PatternAlgebra.Search
