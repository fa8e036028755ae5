import PatternAlgebra.Matcher.Breakage
import PatternAlgebra.Proofs.Regex.Events
import PatternAlgebra.Proofs.Regex.Replacement

/-! Templates read from left to right. What a reader collects from a template, piece by piece, is
what a direct reading of it inserts, in which a dollar sign takes the longest run of digits behind
it that is the number of a group. The engine's own notation for templates does not come between the
two, except that it prefers a group that has the number for its name. -/
namespace PatternAlgebra

namespace Template

variable {groups n : ℕ} {group : ℕ → Text} {t : Text} {r : Reader}

/-- How many digits the number of a group has at the beginning of a text: as many as keep its value
below `groups`, and the first one in any case. -/
def numberLength (groups : ℕ) (t : Text) : ℕ :=
  max 1 (Nat.findGreatest (fun n => Text.decimalValue (t.take n) < groups)
    (t.takeWhile Char.isDigit).length)

/-- What a template inserts, where `group` gives the text of each group. A backslash takes the next
character as it is, and a dollar sign in front of a digit takes the number of a group. -/
def interpret (groups : ℕ) (group : ℕ → Text) : Text → Text
  | [] => []
  | c :: t =>
    if c = '\\' then t.take 1 ++ interpret groups group (t.drop 1)
    else if c = '$' ∧ t.head?.any Char.isDigit = true then
      group (Text.decimalValue (t.take (numberLength groups t))) ++
        interpret groups group (t.drop (numberLength groups t))
    else c :: interpret groups group t
termination_by t => t.length
decreasing_by all_goals simp only [List.length_drop, List.length_cons]; omega

/-! ### The number of a group -/

/-- The value of a number that goes on with more digits. -/
def extended (n : ℕ) (ds : Text) : ℕ := ds.foldl (fun n d => n * 10 + Text.digitValue d) n

/-- How many digits a number goes on with while its value stays below `groups`. -/
def further (groups : ℕ) : (n : ℕ) → Text → ℕ
  | _, [] => 0
  | n, c :: t =>
    if c.isDigit ∧ n * 10 + Text.digitValue c < groups then
      further groups (n * 10 + Text.digitValue c) t + 1
    else 0

lemma le_extended (n : ℕ) (ds : Text) : n ≤ extended n ds := by
  induction ds generalizing n with
  | nil => exact le_rfl
  | cons d ds ih =>
    have hstep : n ≤ n * 10 + Text.digitValue d := by omega
    exact hstep.trans (ih _)

lemma further_le (groups n : ℕ) (t : Text) :
    further groups n t ≤ (t.takeWhile Char.isDigit).length := by
  induction t generalizing n with
  | nil => exact Nat.zero_le _
  | cons c t ih =>
    rw [further]
    split_ifs with h
    · rw [List.takeWhile_cons_of_pos h.1, List.length_cons]
      exact Nat.succ_le_succ (ih _)
    · exact Nat.zero_le _

lemma further_of_le (h : groups ≤ n) (t : Text) : further groups n t = 0 := by
  cases t with
  | nil => rfl
  | cons c t =>
    rw [further, if_neg]
    omega

lemma extended_further_lt (h : n < groups) (t : Text) :
    extended n (t.take (further groups n t)) < groups := by
  induction t generalizing n with
  | nil => exact h
  | cons c t ih =>
    rw [further]
    split_ifs with hc
    · exact ih hc.2
    · exact h

/-- A digit more makes the number too large. -/
lemma le_extended_of_further_lt {k : ℕ} (hk : further groups n t < k)
    (hdigits : k ≤ (t.takeWhile Char.isDigit).length) : groups ≤ extended n (t.take k) := by
  induction t generalizing n k with
  | nil => simp at hdigits; omega
  | cons c t ih =>
    obtain ⟨k, rfl⟩ := Nat.exists_eq_succ_of_ne_zero (Nat.ne_zero_of_lt hk)
    have hc : c.isDigit = true := by
      by_contra hc
      simp [List.takeWhile_cons_of_neg hc] at hdigits
    rw [List.takeWhile_cons_of_pos hc, List.length_cons] at hdigits
    rw [further] at hk
    split_ifs at hk with hnext
    · exact ih (Nat.lt_of_succ_lt_succ hk) (Nat.le_of_succ_le_succ hdigits)
    · have hlarge : groups ≤ n * 10 + Text.digitValue c := by
        by_contra hlt
        exact hnext ⟨hc, not_le.mp hlt⟩
      exact hlarge.trans (le_extended _ _)

lemma decimalValue_take_succ (d : Char) (t : Text) (k : ℕ) :
    Text.decimalValue ((d :: t).take (k + 1)) = extended (Text.digitValue d) (t.take k) := by
  rw [List.take_succ_cons, Text.decimalValue, List.foldl_cons, Nat.zero_mul, Nat.zero_add]
  rfl

/-- Digit by digit the longest run of digits is taken. -/
lemma numberLength_cons {d : Char} (hd : d.isDigit = true) (groups : ℕ) (t : Text) :
    numberLength groups (d :: t) = further groups (Text.digitValue d) t + 1 := by
  have hlength :
      ((d :: t).takeWhile Char.isDigit).length = (t.takeWhile Char.isDigit).length + 1 := by
    rw [List.takeWhile_cons_of_pos hd, List.length_cons]
  have hlarge : ∀ k, further groups (Text.digitValue d) t + 1 < k →
      k ≤ (t.takeWhile Char.isDigit).length + 1 →
        ¬Text.decimalValue ((d :: t).take k) < groups := by
    intro k hk hle
    obtain ⟨k, rfl⟩ := Nat.exists_eq_succ_of_ne_zero (Nat.ne_zero_of_lt hk)
    rw [decimalValue_take_succ, not_lt]
    exact le_extended_of_further_lt (Nat.lt_of_succ_lt_succ hk) (Nat.le_of_succ_le_succ hle)
  rw [numberLength, hlength]
  by_cases hfirst : Text.digitValue d < groups
  · have hgreatest : Nat.findGreatest (fun k => Text.decimalValue ((d :: t).take k) < groups)
        ((t.takeWhile Char.isDigit).length + 1) = further groups (Text.digitValue d) t + 1 := by
      rw [Nat.findGreatest_eq_iff]
      refine ⟨Nat.succ_le_succ (further_le _ _ t), fun _ => ?_, fun k => hlarge k⟩
      rw [decimalValue_take_succ]
      exact extended_further_lt hfirst t
    rw [hgreatest]
    exact Nat.max_eq_right (Nat.le_add_left 1 _)
  · have hnone : further groups (Text.digitValue d) t = 0 := further_of_le (not_lt.mp hfirst) t
    have hone : ¬Text.decimalValue ((d :: t).take 1) < groups := by
      rw [decimalValue_take_succ, List.take_zero]
      exact hfirst
    rw [hnone] at hlarge ⊢
    refine Nat.max_eq_left ?_
    rw [← not_lt]
    intro hgreatest
    have hspec := Nat.findGreatest_of_ne_zero
      (P := fun k => Text.decimalValue ((d :: t).take k) < groups) rfl (Nat.ne_zero_of_lt hgreatest)
    exact hlarge _ hgreatest (Nat.findGreatest_le _) hspec

/-! ### The reader -/

namespace Reader

/-- What a template inserts up to where a reader is. -/
def inserted (group : ℕ → Text) (r : Reader) : Text :=
  expand group r.pieces.reverse ++ r.literal.reverse

/-- What it inserts in the end, when the rest of it has been read. -/
def insertion (groups : ℕ) (group : ℕ → Text) (r : Reader) (t : Text) : Text :=
  expand group (t.foldl (Reader.read groups) r).finish

lemma expand_endLiteral (group : ℕ → Text) (r : Reader) :
    expand group r.endLiteral.pieces.reverse = r.inserted group := by
  unfold endLiteral inserted
  split_ifs with h
  · rw [List.isEmpty_iff.mp h, List.reverse_nil, List.append_nil]
  · simp [expand]

lemma inserted_addChar (group : ℕ → Text) (r : Reader) (c : Char) :
    (r.addChar c).inserted group = r.inserted group ++ [c] := by
  simp [inserted, addChar]

lemma literal_endLiteral (r : Reader) : r.endLiteral.literal = [] := by
  unfold endLiteral
  split_ifs with h
  · exact List.isEmpty_iff.mp h
  · rfl

lemma inserted_endLiteral (group : ℕ → Text) (r : Reader) :
    r.endLiteral.inserted group = r.inserted group := by
  rw [inserted, literal_endLiteral, List.reverse_nil, List.append_nil, expand_endLiteral]

lemma inserted_addGroup (h : r.literal = []) (group : ℕ → Text) (n : ℕ) :
    (r.addGroup n).inserted group = r.inserted group ++ group n := by
  simp [inserted, addGroup, h, expand]

lemma insertion_cons (groups : ℕ) (group : ℕ → Text) (r : Reader) (c : Char) (t : Text) :
    r.insertion groups group (c :: t) = (r.read groups c).insertion groups group t := rfl

lemma insertion_nil (h : r.mode = .plain) (groups : ℕ) (group : ℕ → Text) :
    r.insertion groups group [] = r.inserted group := by
  rw [insertion, List.foldl_nil, finish, h]
  exact expand_endLiteral group r

lemma read_plain (h : r.mode = .plain) (groups : ℕ) (c : Char) :
    r.read groups c = r.readPlain c := by
  rw [read, h]

/-- A reader that reads a number takes the digits that belong to it, and then it is where it would
be without them. -/
lemma insertion_number (hmode : r.mode = .number n) (groups : ℕ) (group : ℕ → Text) (t : Text) :
    r.insertion groups group t =
      (r.addGroup (extended n (t.take (further groups n t)))).insertion groups group
        (t.drop (further groups n t)) := by
  induction t generalizing n r with
  | nil =>
    have hfinish : r.finish = (r.addGroup n).finish := by
      rw [finish, hmode]
      rfl
    rw [insertion, List.foldl_nil, hfinish]
    rfl
  | cons c t ih =>
    rw [insertion_cons, read, hmode, further]
    dsimp only
    split_ifs with hc
    · rw [ih rfl]
      rfl
    · -- what stands behind the number is read as if it stood at the beginning
      rfl

lemma insertion_backslash (h : r.mode = .plain) (groups : ℕ) (group : ℕ → Text) (d : Char)
    (t : Text) :
    r.insertion groups group ('\\' :: d :: t) = (r.addChar d).insertion groups group t := by
  rw [insertion_cons, read_plain h]
  rfl

/-- A backslash at the end inserts nothing. -/
lemma insertion_backslash_nil (h : r.mode = .plain) (groups : ℕ) (group : ℕ → Text) :
    r.insertion groups group ['\\'] = r.inserted group := by
  rw [insertion_cons, read_plain h]
  exact expand_endLiteral group { r with mode := .backslash }

lemma insertion_dollar (h : r.mode = .plain) {d : Char} (hd : d.isDigit = false) (groups : ℕ)
    (group : ℕ → Text) (t : Text) :
    r.insertion groups group ('$' :: d :: t) = (r.addChar '$').insertion groups group (d :: t) := by
  have hread :
      ({ r with mode := .dollar } : Reader).read groups d = (r.addChar '$').readPlain d := by
    rw [read, hd]
    rfl
  rw [insertion_cons, read_plain h, insertion_cons]
  exact congrArg (insertion groups group · t) hread

lemma insertion_group (h : r.mode = .plain) {d : Char} (hd : d.isDigit = true) (groups : ℕ)
    (group : ℕ → Text) (t : Text) :
    let k := numberLength groups (d :: t)
    r.insertion groups group ('$' :: d :: t) =
      (r.endLiteral.addGroup (Text.decimalValue ((d :: t).take k))).insertion groups group
        ((d :: t).drop k) := by
  intro k
  have hread : ({ r with mode := .dollar } : Reader).read groups d =
      { r.endLiteral with mode := .number (Text.digitValue d) } := by
    refine (if_pos hd).trans ?_
    unfold endLiteral
    split_ifs <;> rfl
  have hk : k = further groups (Text.digitValue d) t + 1 := numberLength_cons hd groups t
  rw [insertion_cons, read_plain h, insertion_cons, hk, decimalValue_take_succ,
    List.drop_succ_cons]
  exact (congrArg (insertion groups group · t) hread).trans (insertion_number rfl groups group t)

end Reader

/-- A reader goes on with what a direct reading of the rest inserts. -/
lemma insertion_eq_interpret (h : r.mode = .plain) (groups : ℕ) (group : ℕ → Text) (t : Text) :
    r.insertion groups group t = r.inserted group ++ interpret groups group t := by
  fun_induction interpret groups group t generalizing r with
  | case1 => rw [Reader.insertion_nil h, List.append_nil]
  | case2 t ih =>
    cases t with
    | nil =>
      rw [Reader.insertion_backslash_nil h, List.take_nil, List.drop_nil, interpret,
        List.append_nil, List.append_nil]
    | cons d t =>
      rw [List.drop_succ_cons, List.drop_zero] at ih ⊢
      rw [Reader.insertion_backslash h, ih rfl, Reader.inserted_addChar, List.append_assoc]
      rfl
  | case3 c t hc hdollar ih =>
    obtain ⟨rfl, hdigit⟩ := hdollar
    cases t with
    | nil => cases hdigit
    | cons d t =>
      rw [Reader.insertion_group h hdigit, ih rfl,
        Reader.inserted_addGroup r.literal_endLiteral, Reader.inserted_endLiteral,
        List.append_assoc]
  | case4 c t hc hdollar ih =>
    have hchar : r.insertion groups group (c :: t) = (r.addChar c).insertion groups group t := by
      by_cases hsign : c = '$'
      · subst hsign
        cases t with
        | nil =>
          rw [Reader.insertion_cons, Reader.read_plain h]
          rfl
        | cons d t => exact Reader.insertion_dollar h (by simpa using hdollar) groups group t
      · rw [Reader.insertion_cons, Reader.read_plain h, Reader.readPlain, if_neg hc, if_neg hsign]
    rw [hchar, ih rfl, Reader.inserted_addChar, List.append_assoc]
    rfl

/-- The pieces of a template insert what a direct reading of it does. -/
lemma expand_parse (groups : ℕ) (group : ℕ → Text) (template : Text) :
    expand group (parse groups template) = interpret groups group template := by
  have hread := insertion_eq_interpret (r := {}) rfl groups group template
  exact hread

end Template

namespace Regex

open Engine Template

variable {r : Regex}

/-- The text of a group by its number, empty where the group took no part or does not exist. -/
def numbered (t : Text) (m : Match CharRange) (n : ℕ) : Text :=
  ((m.group? n).map (·.slice t)).getD []

/-- The group that the engine takes for a number: one that has it for its name comes first. -/
def called? {σ : Type} (r : Regex) (m : Match σ) (n : ℕ) : Option σ :=
  (r.program.names.lookup (Text.decimal n)).bind m.group? <|> m.group? n

def called (r : Regex) (t : Text) (m : Match CharRange) (n : ℕ) : Text :=
  ((r.called? m n).map (·.slice t)).getD []

/-- A text from position `p` on, in which each match is replaced. -/
def rewrittenFrom (t : Text) (insert : Match CharRange → Text) :
    (p : ℕ) → List (Match CharRange) → Text
  | p, [] => t.drop p
  | p, m :: ms =>
    (t.drop p).take (m.whole.start - p) ++ insert m ++ rewrittenFrom t insert m.whole.stop ms

/-- The target with each match replaced by what a direct reading of the template inserts. -/
def interpretation (r : Regex) (group : Match CharRange → ℕ → Text) (t template : Text) : Text :=
  rewrittenFrom t (fun m => interpret r.captureCount (group m) template) 0 (r.occurrences t)

lemma sliceBytes_toByteSpan (t : Text) (s : Span) :
    t.sliceBytes (Program.toByteSpan t s).start (Program.toByteSpan t s).stop =
      (CharRange.ofByteSpan t (Program.toByteSpan t s)).slice t := by
  have hstop : (CharRange.ofBounds (min s.start t.length) (min s.stop t.length)).stop -
      min s.start t.length = min s.stop t.length - min s.start t.length := by
    simp only [CharRange.ofBounds]
    omega
  rw [CharRange.slice_eq_take_drop, CharRange.ofByteSpan_toByteSpan]
  refine (Text.sliceBytes_bytesBefore t s.start s.stop).trans ?_
  rw [← Fragment.take_drop_min, ← hstop]
  rfl

lemma called?_map {σ τ : Type} (f : σ → τ) (r : Regex) (m : Match σ) (n : ℕ) :
    r.called? (m.map f) n = (r.called? m n).map f := by
  unfold called?
  cases r.program.names.lookup (Text.decimal n) with
  | none => simp [group?_map]
  | some i =>
    simp only [Option.bind_some, group?_map]
    cases m.group? i <;> rfl

lemma groupSpan?_decimal (r : Regex) (m : Match ByteSpan) (n : ℕ) :
    r.groupSpan? m (Text.decimal n) = r.called? m n := by
  have hdigits : (Text.decimal n).all Char.isDigit = true :=
    List.all_eq_true.mpr fun _ => Text.isDigit_of_mem_decimal
  rw [groupSpan?, if_pos hdigits, Text.decimalValue_decimal]
  rfl

lemma called_inText (r : Regex) (t : Text) (m : Match Span) (n : ℕ) :
    r.called t (inText t m) n =
      ((r.called? m n).map fun s => t.sliceBytes (Program.toByteSpan t s).start
        (Program.toByteSpan t s).stop).getD [] := by
  rw [called, inText, called?_map, called?_map, Option.map_map, Option.map_map]
  simp only [sliceBytes_toByteSpan]
  rfl

lemma groupText_decimal (r : Regex) (t : Text) (m : Match Span) (n : ℕ) :
    r.groupText t (m.map (Program.toByteSpan t)) (Text.decimal n) = r.called t (inText t m) n := by
  rw [groupText, groupSpan?_decimal, called?_map, Option.map_map, called_inText]
  rfl

lemma replaceFrom_eq_rewrittenFrom (r : Regex) (t template : Text) (p : ℕ) {ms : List (Match Span)}
    (hms : ∀ m ∈ ms, m.whole.start ≤ m.whole.stop) :
    r.replaceFrom t (encode (parse r.captureCount template)) (t.bytesBefore p)
        (ms.map (·.map (Program.toByteSpan t))) =
      rewrittenFrom t (fun m => interpret r.captureCount (r.called t m) template) (min p t.length)
        (ms.map (inText t)) := by
  induction ms generalizing p with
  | nil =>
    rw [List.map_nil, List.map_nil, replaceFrom_nil, rewrittenFrom]
    rcases le_total p t.length with h | h
    · rw [Nat.min_eq_left h]
    · rw [Nat.min_eq_right h, List.drop_length, List.drop_eq_nil_of_le h]
  | cons m ms ih =>
    obtain ⟨hm, hms⟩ := List.forall_mem_cons.mp hms
    obtain ⟨hstart, hstop⟩ := whole_inText hm t
    rw [List.map_cons, List.map_cons, replaceFrom_cons, ih m.whole.stop hms, rewrittenFrom, hstart,
      hstop, Fragment.take_drop_min, expand_encode, expand_parse]
    simp only [groupText_decimal]

/-- What is never broken off need not be asked. -/
lemma canBreak_of_replaceBreaks {t : Text} (h : r.replaceBreaks t = true) : r.canBreak = true := by
  rw [replaceBreaks, Program.breaksAtLast, Program.stepsBack, Bool.or_eq_true, Bool.and_eq_true,
    Bool.and_eq_true] at h
  rw [canBreak, Bool.or_eq_true]
  exact h.imp And.left And.left

/-- What stands between the matches stays, and each match is replaced by what a direct reading of
the template inserts, in which a group that has a number for its name goes before the group with
this number. A replacement is broken off just where a search is or the matches are out of order. -/
theorem replaceMatches_interprets (r : Regex) (t template : Text) :
    r.replaceMatches t template = r.interpretation (r.called t) t template ∧
      ((∀ n, r.program.names.lookup (Text.decimal n) = none) →
        r.replaceMatches t template = r.interpretation (numbered t) t template) ∧
      ((Matcher.regex r).breaksOff t (.replace template) = false ↔
        r.program.breaksAtLast t = false ∧ r.InOrder t) := by
  have hspans := r.program.start_le_stop_of_mem_searchText t
  have hreplaced : r.replaceMatches t template = r.interpretation (r.called t) t template := by
    have hfrom := replaceFrom_eq_rewrittenFrom r t template 0 hspans
    rw [Text.bytesBefore_zero, Nat.zero_min, ← occurrences_eq_inText] at hfrom
    exact hfrom
  refine ⟨hreplaced, fun hnames => ?_, ?_⟩
  · have hgroups : r.called t = numbered t := by
      funext m n
      rw [called, called?, hnames]
      rfl
    rw [hreplaced, hgroups]
  · have hbreaks : (Matcher.regex r).breaksOff t (.replace template) = r.replaceBreaks t := by
      have hasked : (Matcher.regex r).breaksOff t (.replace template) =
        (r.canBreak && r.replaceBreaks t) := rfl
      rw [hasked, Bool.and_eq_right_iff_imp]
      exact canBreak_of_replaceBreaks
    rw [hbreaks, replaceBreaks_eq_false_iff]

/-- In `ab` the letters swap their places. The template has a number with a leading zero, one that
is too large with its second digit, an escaped dollar sign, another one that stands alone, and a
backslash at its end. -/
theorem replaceMatches_interprets_digits :
    ∃ r : Regex, Regex.compile? "(.)(.)".toList (.ofCase true) = some r ∧
      (∀ n, r.program.names.lookup (Text.decimal n) = none) ∧
      r.interpretation (numbered "ab".toList) "ab".toList "$02$17\\$1$\\".toList = "ba7$1$".toList ∧
      (Matcher.regex r).breaksOff "ab".toList (.replace "$02$17\\$1$\\".toList) = false := by
  let r := (Regex.compile? "(.)(.)".toList (.ofCase true)).get (by decide +kernel)
  have hr : Regex.compile? "(.)(.)".toList (.ofCase true) = some r := by decide +kernel
  have hnames : ∀ n, r.program.names.lookup (Text.decimal n) = none := by
    have hnone : r.program.names = [] := by decide +kernel
    rw [hnone]
    exact fun _ => rfl
  have horder : r.InOrder "ab".toList := inOrder_of_not_canStepBack (by decide +kernel) _
  have hvalue : r.replaceMatches "ab".toList "$02$17\\$1$\\".toList = "ba7$1$".toList := by
    decide +kernel
  obtain ⟨-, hnumbered, hbreaks⟩ := replaceMatches_interprets r "ab".toList "$02$17\\$1$\\".toList
  exact ⟨r, hr, hnames, (hnumbered hnames).symm.trans hvalue,
    hbreaks.mpr ⟨by decide +kernel, horder⟩⟩

/-- In `aaa` the second match begins before the end of the first one. Read directly, the template
replaces both, but the replacement is broken off. -/
theorem replaceMatches_interprets_stepping_back :
    ∃ r : Regex, Regex.compile? "(?<=\\Ka)a".toList (.ofCase true) = some r ∧
      r.interpretation (numbered "aaa".toList) "aaa".toList "x".toList = "xx".toList ∧
      (Matcher.regex r).breaksOff "aaa".toList (.replace "x".toList) = true := by
  let r := (Regex.compile? "(?<=\\Ka)a".toList (.ofCase true)).get (by decide +kernel)
  have hr : Regex.compile? "(?<=\\Ka)a".toList (.ofCase true) = some r := by decide +kernel
  have hinsert (group : ℕ → Text) : interpret r.captureCount group "x".toList = "x".toList := by
    simp [interpret]
  have hspliced : rewrittenFrom "aaa".toList (fun _ => "x".toList) 0 (r.occurrences "aaa".toList) =
      "xx".toList := by decide +kernel
  refine ⟨r, hr, ?_, by decide +kernel⟩
  rw [interpretation]
  simp only [hinsert]
  exact hspliced

/-- In `xb` the second group has the number 1 for its name. -/
example : (Regex.compile? "(x)(?<1>b)".toList (.ofCase true)).map (·.replaceMatches "xb".toList
    "$1$2".toList) = some "bb".toList := by decide +kernel

end Regex

end PatternAlgebra
