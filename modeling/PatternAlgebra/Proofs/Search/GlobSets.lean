import PatternAlgebra.Proofs.Regex.Events
import PatternAlgebra.Proofs.Search.GlobGrammar

/-! Sets with escapes. Pairs are taken as they stand only at the beginning of a set: behind the
first character that is not escaped a set ends at the next closing bracket, be it escaped or not. -/
namespace PatternAlgebra.Search

open Engine

/-- What stands between the brackets of a set: characters other than brackets and the backslash, and
any characters of the line behind a backslash. -/
inductive SetItem where
  | escaped (c : Char) (h : c ≠ '\n')
  | plain (c : Char) (h : c ∉ ['[', ']', '\\'])

namespace SetItem

def text : SetItem → Text
  | escaped c _ => ['\\', c]
  | plain c _ => [c]

def isEscaped : SetItem → Bool
  | escaped _ _ => true
  | plain _ _ => false

def body (items : List SetItem) : Text := items.flatMap text

/-- The pairs at the beginning. -/
def lead (items : List SetItem) : List SetItem := items.takeWhile isEscaped

/-- The items from the first one on that is not escaped. -/
def rest (items : List SetItem) : List SetItem := items.dropWhile isEscaped

variable {items : List SetItem} {run after u : Text}

lemma body_lead_append_rest (items : List SetItem) :
    body (lead items) ++ body (rest items) = body items := by
  rw [body, body, body, ← List.flatMap_append]
  exact congrArg _ List.takeWhile_append_dropWhile

lemma closeLength_body (hsplit : body (rest items) ++ ']' :: u = run ++ ']' :: after)
    (hrun : ']' ∉ run) :
    closeLength (body items ++ ']' :: u) = (body (lead items)).length + run.length + 1 := by
  induction items with
  | nil =>
    cases run with
    | nil => rfl
    | cons c run =>
      obtain ⟨rfl, -⟩ := List.cons.inj hsplit
      exact absurd List.mem_cons_self hrun
  | cons item items ih =>
    cases item with
    | escaped c h =>
      have hpair : body (escaped c h :: items) ++ ']' :: u =
          '\\' :: c :: (body items ++ ']' :: u) := rfl
      have hlead : body (lead (escaped c h :: items)) = '\\' :: c :: body (lead items) := rfl
      rw [hpair, closeLength, if_pos ⟨h, by simp⟩, ih hsplit, hlead, List.length_cons,
        List.length_cons]
      omega
    | plain c h =>
      have hlead : lead (plain c h :: items) = [] := rfl
      have hslash : ∀ d v, body (plain c h :: items) ++ ']' :: u ≠ '\\' :: d :: v := by
        rintro d v hv
        obtain ⟨rfl, -⟩ := List.cons.inj hv
        simp at h
      have hrest : body (plain c h :: items) ++ ']' :: u = run ++ ']' :: after := hsplit
      rw [closeLength, hrest, closeLength_of_plain hrun, hlead]
      · simp [body]
      · exact fun d v hv => hslash d v hv

/-- How long a set is. -/
lemma setLength?_body (hne : items ≠ [])
    (hsplit : body (rest items) ++ ']' :: u = run ++ ']' :: after) (hrun : ']' ∉ run) :
    setLength? (body items ++ ']' :: u) = some (body (lead items) ++ run ++ [']']).length := by
  have hhead : (body items ++ ']' :: u).head? ≠ some ']' := by
    obtain ⟨item, items, rfl⟩ := List.exists_cons_of_ne_nil hne
    cases item with
    | escaped c h => simp [body, text]
    | plain c h =>
      intro hc
      obtain rfl : c = ']' := by simpa [body, text] using hc
      simp at h
  rw [setLength?, if_pos ⟨by simp, hhead⟩, closeLength_body hsplit hrun]
  simp [Nat.add_assoc]

/-- Behind an escaped closing bracket further items are left. -/
lemma after_cases (hsplit : body items ++ [']'] = run ++ ']' :: after) (hrun : ']' ∉ run) :
    after = [] ∨
      ∃ left : List SetItem, left.length < items.length ∧ after = body left ++ [']'] := by
  induction items generalizing run with
  | nil =>
    cases run with
    | nil => exact Or.inl (List.cons.inj hsplit).2.symm
    | cons c run => simp [body] at hsplit
  | cons item items ih =>
    have hfurther {run : Text} (hsplit : body items ++ [']'] = run ++ ']' :: after)
        (hrun : ']' ∉ run) : after = [] ∨ ∃ left : List SetItem,
          left.length < (item :: items).length ∧ after = body left ++ [']'] :=
      (ih hsplit hrun).imp_right fun ⟨left, hlt, h⟩ => ⟨left, Nat.lt_succ_of_lt hlt, h⟩
    cases item with
    | escaped c h =>
      rcases List.cons_eq_append_iff.mp hsplit with ⟨rfl, hclose⟩ | ⟨run, rfl, hpair⟩
      · simp at hclose
      · rcases List.cons_eq_append_iff.mp hpair with ⟨rfl, hclose⟩ | ⟨run, rfl, hbody⟩
        · exact Or.inr ⟨items, Nat.lt_succ_self _, (List.cons.inj hclose).2⟩
        · exact hfurther hbody fun h => hrun (by simp [h])
    | plain c h =>
      rcases List.cons_eq_append_iff.mp hsplit with ⟨rfl, hclose⟩ | ⟨run, rfl, hbody⟩
      · obtain rfl : ']' = c := (List.cons.inj hclose).1
        simp at h
      · exact hfurther hbody fun h => hrun (List.mem_cons_of_mem c h)

end SetItem

/-! ### Reports -/

variable {g pre post : Text} {origin fuel k n length : ℕ} {previous : Option ℕ} {m : Match Span}

lemma token_of_mem (hm : m ∈ (tokenRegex.program.searchAll g.toArray fuel origin previous).1) :
    ∃ k n length, token? (g.drop k) = some (n, length) ∧ m = tokenMatch n k length := by
  induction fuel generalizing origin previous with
  | zero => exact absurd hm List.not_mem_nil
  | succ fuel ih =>
    rcases searchAll_tokenRegex g fuel origin previous with
      ⟨-, hsearch⟩ | ⟨k, n, length, -, -, htoken, hsearch⟩
    · rw [hsearch] at hm
      exact absurd hm List.not_mem_nil
    · rw [hsearch] at hm
      rcases List.mem_cons.mp hm with rfl | hm
      · exact ⟨k, n, length, htoken, rfl⟩
      · exact ih hm

/-- A token is matched, unless one begins before it and ends behind its beginning. -/
lemma mem_of_token (hle : origin ≤ k) (hfuel : g.length < origin + fuel)
    (hbefore : ∀ m n' length', m < k → token? (g.drop m) = some (n', length') → m + length' ≤ k)
    (htoken : token? (g.drop k) = some (n, length)) :
    tokenMatch n k length ∈ (tokenRegex.program.searchAll g.toArray fuel origin previous).1 := by
  induction fuel generalizing origin previous with
  | zero =>
    rw [List.drop_eq_nil_of_le (by omega)] at htoken
    contradiction
  | succ fuel ih =>
    rcases searchAll_tokenRegex g fuel origin previous with
      ⟨hnone, -⟩ | ⟨k', n', length', hle', hleast, htoken', hsearch⟩
    · rw [hnone k hle] at htoken
      contradiction
    · rw [hsearch]
      have hpos := (length_of_token? htoken').1
      rcases Nat.lt_trichotomy k' k with hlt | rfl | hgt
      · have hend := hbefore k' n' length' hlt htoken'
        exact List.mem_cons_of_mem _ (ih hend (by omega))
      · obtain ⟨rfl, rfl⟩ := Prod.mk.inj (Option.some.inj (htoken.symm.trans htoken'))
        exact List.mem_cons_self
      · rw [hleast k hle hgt] at htoken
        contradiction

/-- The second group of a token's match is the token, if it is a set. -/
lemma setGroup_tokenMatch (hfits : k + length ≤ g.length) :
    (Regex.inText g (tokenMatch n k length)).groups[2]? =
      some (if n = 3 then some (.ofBounds k (k + length)) else none) := by
  rw [(inText_tokenMatch hfits).2]
  split_ifs with hn
  · obtain rfl := hn
    rfl
  · have hne : (3 == n) = false := beq_eq_false_iff_ne.mpr (Ne.symm hn)
    simp [List.range', List.lookup, hne]

/-- A set is reported where it begins. -/
lemma set_reported_iff (hpos : 0 < length)
    (hbefore : ∀ m n' length', m < k → token? (g.drop m) = some (n', length') → m + length' ≤ k) :
    .group (.ofBounds k (k + length)) 2 ∈ tokenRegex.description g ↔
      token? (g.drop k) = some (3, length) := by
  have hfits {k n length : ℕ} (htoken : token? (g.drop k) = some (n, length)) :
      k + length ≤ g.length := by
    obtain ⟨hpos, hlength⟩ := length_of_token? htoken
    rw [List.length_drop] at hlength
    omega
  have hall : .group (.ofBounds k (k + length)) 2 ∈ tokenRegex.description g ↔
      ∃ m ∈ tokenRegex.occurrences g, m.groups[2]? = some (some (.ofBounds k (k + length))) := by
    rw [← Regex.shown_eq_description]
    by_cases hnone : tokenRegex.occurrences g = []
    · simp [Regex.shown, hnone]
    · rw [Regex.shown_of_ne_nil hnone]
      exact group_mem_layout_iff
  rw [hall, occurrences_tokenRegex]
  constructor
  · rintro ⟨_, hm, hgroup⟩
    obtain ⟨m, hmem, rfl⟩ := List.mem_map.mp hm
    obtain ⟨k', n', length', htoken', rfl⟩ := token_of_mem hmem
    rw [setGroup_tokenMatch (hfits htoken')] at hgroup
    split_ifs at hgroup with hn
    · obtain ⟨rfl, hstop⟩ := CharRange.mk.inj (Option.some.inj (Option.some.inj hgroup))
      obtain rfl : length' = length := by
        rw [max_eq_right (Nat.le_add_right _ _), max_eq_right (Nat.le_add_right _ _)] at hstop
        omega
      rw [htoken', hn]
    · simp at hgroup
  · intro htoken
    have hmem : tokenMatch 3 k length ∈
        (tokenRegex.program.searchAll g.toArray (g.length + 2) 0 none).1 :=
      mem_of_token (Nat.zero_le k) (by omega) hbefore htoken
    exact ⟨_, List.mem_map_of_mem hmem, setGroup_tokenMatch (hfits htoken)⟩

/-! ### Grammars -/

variable {items : List SetItem} {run after : Text}

lemma length_globSign_pos (c : Char) : 0 < (globSign c).length := by
  rw [globSign_eq_escapeEach]
  unfold escapeEach
  split_ifs <;> simp
  split_ifs <;> simp

lemma length_globSign_of_special {c : Char} (hc : c ∈ ['[', ']', '\\']) :
    (globSign c).length = 2 := by
  obtain ⟨hquestion, hstar, hspecial⟩ : c ≠ '?' ∧ c ≠ '*' ∧ isSpecialChar c = true := by
    simp only [List.mem_cons, List.not_mem_nil, or_false] at hc
    rcases hc with rfl | rfl | rfl <;> exact ⟨by decide, by decide, by decide⟩
  rw [globSign_eq_escapeEach, if_neg hquestion, if_neg hstar,
    Sign.escapeEach_cons_of_special hspecial]
  rfl

/-- What is written for a set and what follows. -/
lemma written_set (post : Text) (hne : items ≠ [])
    (hsplit : SetItem.body (SetItem.rest items) ++ [']'] = run ++ ']' :: after) (hrun : ']' ∉ run) :
    SetItem.body items ++ ']' :: post =
        SetItem.body (SetItem.lead items) ++ run ++ [']'] ++ (after ++ post) ∧
      setLength? (SetItem.body items ++ ']' :: post) =
        some (SetItem.body (SetItem.lead items) ++ run ++ [']']).length ∧
      written ('[' :: (SetItem.body items ++ ']' :: post)) =
        '[' :: (SetItem.body (SetItem.lead items) ++ run ++ [']']) ++ written (after ++ post) := by
  have hsplit' : SetItem.body (SetItem.rest items) ++ ']' :: post =
      run ++ ']' :: (after ++ post) := by
    simpa using congrArg (· ++ post) hsplit
  have htext : SetItem.body items ++ ']' :: post =
      SetItem.body (SetItem.lead items) ++ run ++ [']'] ++ (after ++ post) := by
    rw [← SetItem.body_lead_append_rest items, List.append_assoc, hsplit']
    simp
  have hlength := SetItem.setLength?_body hne hsplit' hrun
  refine ⟨htext, hlength, ?_⟩
  rw [written, if_pos rfl, hlength, htext]
  simp only [List.take_left, List.drop_left, List.cons_append]

lemma exists_run (items : List SetItem) : ∃ run after : Text,
    SetItem.body (SetItem.rest items) ++ [']'] = run ++ ']' :: after ∧ ']' ∉ run :=
  List.eq_append_cons_of_mem (List.mem_append_right _ List.mem_cons_self)

/-- Behind an opening bracket items are written as they stand, or some of them are left. -/
lemma length_le_length_written_set (post : Text) (hne : items ≠ [])
    (hleft : ∀ left : List SetItem, left.length < items.length →
      (SetItem.body left).length + 1 + (written post).length <
        (written (SetItem.body left ++ ']' :: post)).length) :
    (SetItem.body items).length + 2 + (written post).length ≤
      (written ('[' :: (SetItem.body items ++ ']' :: post))).length := by
  obtain ⟨run, after, hsplit, hrun⟩ := exists_run items
  obtain ⟨hset, -, hwritten⟩ := written_set post hne hsplit hrun
  have hlength := congrArg List.length hset
  rw [hwritten, List.length_append, List.length_cons]
  simp only [List.length_append, List.length_cons, List.length_nil] at hlength ⊢
  rcases SetItem.after_cases hsplit hrun with rfl | ⟨left, hlt, rfl⟩
  · simp only [List.nil_append, List.length_nil] at hlength ⊢
    omega
  · have hle : (SetItem.rest items).length ≤ items.length := List.length_dropWhile_le _ _
    have hmore := hleft left (hlt.trans_le hle)
    simp only [List.append_assoc, List.singleton_append, List.length_append,
      List.length_cons, List.length_nil] at hlength hmore ⊢
    omega

/-- Items in front of a closing bracket that do not begin a set are not written as they stand. -/
lemma lt_length_written (items : List SetItem) (post : Text) :
    (SetItem.body items).length + 1 + (written post).length <
      (written (SetItem.body items ++ ']' :: post)).length := by
  induction hn : items.length using Nat.strong_induction_on generalizing items with
  | _ n ih =>
    cases items with
    | nil =>
      have hclose := length_globSign_of_special (c := ']') (by decide)
      simp only [SetItem.body, List.flatMap_nil, List.nil_append]
      rw [written_of_ne (by decide), List.length_append, hclose]
      simp
    | cons item items =>
      have hrest := ih items.length (by simp at hn; omega) items rfl
      cases item with
      | plain c h =>
        have hc : c ≠ '[' := fun hc => h (by simp [hc])
        have hpos := length_globSign_pos c
        have htext : SetItem.body (.plain c h :: items) ++ ']' :: post =
            c :: (SetItem.body items ++ ']' :: post) := rfl
        have hbody : SetItem.body (.plain c h :: items) = c :: SetItem.body items := rfl
        rw [htext, hbody, written_of_ne hc, List.length_append, List.length_cons]
        omega
      | escaped c h =>
        have hslash := length_globSign_of_special (c := '\\') (by decide)
        have htext : SetItem.body (.escaped c h :: items) ++ ']' :: post =
            '\\' :: c :: (SetItem.body items ++ ']' :: post) := rfl
        have hbody : SetItem.body (.escaped c h :: items) = '\\' :: c :: SetItem.body items := rfl
        rw [htext, hbody, written_of_ne (by decide), List.length_append, hslash, List.length_cons,
          List.length_cons]
        -- behind the backslash only an opening bracket can begin a set
        by_cases hc : c = '['
        · obtain rfl := hc
          by_cases hne : items = []
          · obtain rfl := hne
            have hnone : setLength? (SetItem.body [] ++ ']' :: post) = none :=
              if_neg fun h => h.2 rfl
            have hopen := length_globSign_of_special (c := '[') (by decide)
            rw [written, if_pos rfl, hnone, List.length_append, hopen]
            omega
          · have hset := length_le_length_written_set post hne fun left hlt =>
              ih left.length (by simp at hn; omega) left rfl
            omega
        · have hpos := length_globSign_pos c
          rw [written_of_ne hc, List.length_append]
          omega

/-- Nothing is left of the items behind a set exactly if no closing bracket is escaped behind the
first item that is not. -/
lemma after_eq_nil_iff
    (hsplit : SetItem.body (SetItem.rest items) ++ [']'] = run ++ ']' :: after) (hrun : ']' ∉ run) :
    after = [] ↔ ']' ∉ SetItem.body (SetItem.rest items) := by
  constructor
  · rintro rfl
    exact List.append_cancel_right hsplit ▸ hrun
  · intro hnone
    rcases List.eq_nil_or_concat after with rfl | ⟨left, c, rfl⟩
    · rfl
    · have hconcat : SetItem.body (SetItem.rest items) ++ [']'] = run ++ ']' :: left ++ [c] := by
        simpa using hsplit
      have hbody := (List.append_inj' hconcat rfl).1
      exact absurd (hbody ▸ List.mem_append_right run List.mem_cons_self) hnone

/-- A set is written with all of its items exactly if none of them is left. -/
lemma written_set_eq_iff (post : Text) (hne : items ≠ []) :
    written ('[' :: (SetItem.body items ++ ']' :: post)) =
        '[' :: (SetItem.body items ++ ']' :: written post) ↔
      ']' ∉ SetItem.body (SetItem.rest items) := by
  obtain ⟨run, after, hsplit, hrun⟩ := exists_run items
  obtain ⟨hset, -, hwritten⟩ := written_set post hne hsplit hrun
  rw [hwritten, ← after_eq_nil_iff hsplit hrun]
  constructor
  · intro heq
    rcases SetItem.after_cases hsplit hrun with hafter | ⟨left, -, rfl⟩
    · exact hafter
    · have hlt := lt_length_written left post
      have hlength := congrArg List.length hset
      have hsame := congrArg List.length heq
      simp only [List.length_append, List.length_cons, List.length_nil, List.append_assoc,
        List.singleton_append] at hlength hsame hlt
      omega
  · rintro rfl
    have hbody : SetItem.body items = SetItem.body (SetItem.lead items) ++ run := by
      rw [← SetItem.body_lead_append_rest items, List.append_cancel_right hsplit]
    rw [hbody]
    simp

/-- How long the token of a set is. -/
lemma token?_set (post : Text) (hne : items ≠ [])
    (hsplit : SetItem.body (SetItem.rest items) ++ [']'] = run ++ ']' :: after) (hrun : ']' ∉ run) :
    token? ('[' :: (SetItem.body items ++ ']' :: post)) =
      some (3, ('[' :: (SetItem.body (SetItem.lead items) ++ run ++ [']'])).length) := by
  rw [token?, if_pos rfl, (written_set post hne hsplit hrun).2.1]
  rfl

/-- The token of a set has all of its items exactly if none of them is left. -/
lemma token?_set_eq_iff (post : Text) (hne : items ≠ []) :
    token? ('[' :: (SetItem.body items ++ ']' :: post)) =
        some (3, (SetItem.body items).length + 2) ↔ ']' ∉ SetItem.body (SetItem.rest items) := by
  obtain ⟨run, after, hsplit, hrun⟩ := exists_run items
  have hlength := congrArg List.length (written_set [] hne hsplit hrun).1
  rw [token?_set post hne hsplit hrun, ← after_eq_nil_iff hsplit hrun, ← List.length_eq_zero_iff]
  simp only [Option.some.injEq, Prod.mk.injEq, true_and, List.length_append, List.length_cons,
    List.length_nil, List.append_nil] at hlength ⊢
  omega

/-- In front of a set that is the first one every token is a single character. -/
lemma token?_before (hpre : '[' ∉ pre) (u : Text) {m : ℕ} (hm : m < pre.length)
    (htoken : token? ((pre ++ u).drop m) = some (n, length)) : m + length ≤ pre.length := by
  have hdrop : (pre ++ u).drop m = pre[m] :: (pre.drop (m + 1) ++ u) := by
    rw [List.drop_append_of_le_length hm.le, List.drop_eq_getElem_cons hm]
    rfl
  have hne : pre[m] ≠ '[' := fun h => hpre (h ▸ List.getElem_mem hm)
  rw [hdrop, token?, if_neg hne] at htoken
  obtain ⟨_, -, hpair⟩ := Option.map_eq_some_iff.mp htoken
  obtain ⟨-, rfl⟩ := Prod.mk.inj hpair
  exact hm

/-- The first set of a glob. The pairs at its beginning belong to it, and what comes then up to the
next closing bracket. What is left of the items is read on with the rest of the glob. So a set is one
token with all of its items, and written down as such, exactly if there is no escaped closing bracket
behind the first item that is not escaped. -/
theorem globGrammar_set (hpre : '[' ∉ pre) (hne : items ≠ []) (post : Text) :
    let glob := pre ++ '[' :: (SetItem.body items ++ ']' :: post)
    ∃ r p q, globTokenizer = some r ∧ globGrammar pre = some p ∧ globGrammar post = some q ∧
      (.group (.ofBounds pre.length (pre.length + ((SetItem.body items).length + 2))) 2 ∈
          r.description glob ↔ ']' ∉ SetItem.body (SetItem.rest items)) ∧
      (globGrammar glob = some (p ++ '[' :: (SetItem.body items ++ ']' :: q)) ↔
        ']' ∉ SetItem.body (SetItem.rest items)) ∧
      ∀ run after, SetItem.body (SetItem.rest items) ++ [']'] = run ++ ']' :: after → ']' ∉ run →
        let set := '[' :: (SetItem.body (SetItem.lead items) ++ run ++ [']'])
        .group (.ofBounds pre.length (pre.length + set.length)) 2 ∈ r.description glob ∧
          ∃ s, globGrammar (after ++ post) = some s ∧ globGrammar glob = some (p ++ set ++ s) := by
  intro glob
  have hdrop : glob.drop pre.length = '[' :: (SetItem.body items ++ ']' :: post) := List.drop_left
  have hreported (length : ℕ) (hpos : 0 < length) :
      .group (.ofBounds pre.length (pre.length + length)) 2 ∈ tokenRegex.description glob ↔
        token? ('[' :: (SetItem.body items ++ ']' :: post)) = some (3, length) :=
    hdrop ▸ set_reported_iff hpos fun m n' length' hm htoken => token?_before hpre _ hm htoken
  have hwritten : written glob =
      pre.flatMap globSign ++ written ('[' :: (SetItem.body items ++ ']' :: post)) :=
    written_append_of_not_mem hpre _
  refine ⟨tokenRegex, pre.flatMap globSign, written post, globTokenizer_eq, globGrammar_eq hpre,
    globGrammar_eq_written post, ?_, ?_, fun run after hsplit hrun => ⟨?_, _,
      globGrammar_eq_written _, ?_⟩⟩
  · rw [hreported _ (Nat.succ_pos _), token?_set_eq_iff post hne]
  · rw [globGrammar_eq_written, hwritten, Option.some.injEq, List.append_cancel_left_eq,
      written_set_eq_iff post hne]
  · exact (hreported _ (Nat.succ_pos _)).mpr (token?_set post hne hsplit hrun)
  · rw [globGrammar_eq_written, hwritten, (written_set post hne hsplit hrun).2.2,
      List.append_assoc (pre.flatMap globSign)]

/-- In `a*[\]\*b]?` all pairs come first. -/
theorem globGrammar_set_pairs_first :
    let items := [SetItem.escaped ']' (by decide), .escaped '*' (by decide), .plain 'b' (by decide)]
    '[' ∉ "a*".toList ∧ items ≠ [] ∧ ']' ∉ SetItem.body (SetItem.rest items) ∧
      globGrammar "a*[\\]\\*b]?".toList = some "a.*[\\]\\*b].".toList := by
  intro items
  have hpre : '[' ∉ "a*".toList := by decide
  have hne : items ≠ [] := List.cons_ne_nil _ _
  have hnone : ']' ∉ SetItem.body (SetItem.rest items) := by decide
  obtain ⟨_, p, q, -, hp, hq, -, hgrammar, -⟩ := globGrammar_set hpre hne "?".toList
  rw [globGrammar_eq hpre, Option.some.injEq] at hp
  rw [globGrammar_eq (by decide), Option.some.injEq] at hq
  have hstar : "a*".toList.flatMap globSign = "a.*".toList := by
    simp only [funext globSign_eq_escapeEach]
    decide
  have hquestion : "?".toList.flatMap globSign = ['.'] := rfl
  obtain rfl := hstar.symm.trans hp
  obtain rfl := hquestion.symm.trans hq
  exact ⟨hpre, hne, hnone, hgrammar.mpr hnone⟩

/-- In `[a\]b]` the set ends at the escaped bracket, and the last bracket is literal text. -/
theorem globGrammar_set_escaped_behind :
    let items := [SetItem.plain 'a' (by decide), .escaped ']' (by decide), .plain 'b' (by decide)]
    "[a\\]b]".toList = '[' :: (SetItem.body items ++ [']']) ∧
      (∃ r : Regex, globTokenizer = some r ∧
        .group (.ofBounds 0 4) 2 ∈ r.description "[a\\]b]".toList ∧
        .group (.ofBounds 0 6) 2 ∉ r.description "[a\\]b]".toList) ∧
      globGrammar "[a\\]b]".toList = some "[a\\]b\\]".toList ∧
      globGrammar "[a\\]b]".toList ≠ some "[a\\]b]".toList := by
  intro items
  have htoken : token? "[a\\]b]".toList = some (3, 4) := by decide
  have hreported (length : ℕ) (hpos : 0 < length) :
      .group (.ofBounds 0 (0 + length)) 2 ∈ tokenRegex.description "[a\\]b]".toList ↔
        token? "[a\\]b]".toList = some (3, length) :=
    set_reported_iff hpos fun m _ _ hm => absurd hm (Nat.not_lt_zero m)
  have hset : SetItem.body (SetItem.rest items) ++ [']'] =
      "a\\".toList ++ ']' :: "b]".toList := rfl
  have hrest : written "b]".toList = "b\\]".toList := by
    rw [written_of_not_mem (by decide)]
    simp only [funext globSign_eq_escapeEach]
    decide
  have hgrammar : globGrammar "[a\\]b]".toList = some "[a\\]b\\]".toList := by
    obtain ⟨-, -, hwritten⟩ := written_set [] (List.cons_ne_nil _ _) hset (by decide)
    rw [globGrammar_eq_written]
    refine congrArg some (hwritten.trans ?_)
    rw [List.append_nil, hrest]
    rfl
  have hshort := (hreported 4 (by decide)).mpr htoken
  refine ⟨rfl, ⟨tokenRegex, globTokenizer_eq, hshort, ?_⟩, hgrammar, ?_⟩
  · rw [hreported 6 (by decide), htoken]
    decide
  · rw [hgrammar]
    decide

end PatternAlgebra.Search
