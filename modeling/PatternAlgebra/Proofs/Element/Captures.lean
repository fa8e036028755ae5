import PatternAlgebra.Proofs.Element.Nodes
import PatternAlgebra.Proofs.Element.Scan
import PatternAlgebra.Proofs.Regex.Events

/-! The numbers of captures. The grammar of an element opens one group for each of its captures, in
the order in which the steps number them. An operator whose operand writes nothing stands right
behind the parenthesis of a capture that begins with it, and takes that capture's group away. -/
namespace PatternAlgebra

open Scanner

/-- Whether a name is written into the grammar as it is. -/
def SpecialChar.hasName : SpecialChar → Bool
  | control _ | named _ | withProperty _ | withoutProperty _ => true
  | _ => false

namespace Element

/-- The elements that write no names as they are and whose sets have members. -/
inductive Scannable : Element → Prop
  | leaf {e : Element} (h : e.isLeaf = true) : Scannable e
  | text (t : Text) : Scannable (.text t)
  | charIn {cs : Text} (h : cs ≠ []) : Scannable (.charIn cs)
  | charNotIn {cs : Text} (h : cs ≠ []) : Scannable (.charNotIn cs)
  | special {s : SpecialChar} (h : s.hasName = false) : Scannable (.special s)
  | backReference (id : ℕ) : Scannable (.backReference id)
  | setOptions (o : MatchOptions) : Scannable (.setOptions o)
  | resetOptions (o : MatchOptions) : Scannable (.resetOptions o)
  | repeated {body : Element} (h : Scannable body) (times : Repeat) : Scannable (.repeated body times)
  | either {es : List Element} (h : ∀ e ∈ es, Scannable e) : Scannable (.either es)
  | sequence {es : List Element} (h : ∀ e ∈ es, Scannable e) : Scannable (.sequence es)
  | group {body : Element} (h : Scannable body) (kind : GroupKind) : Scannable (kind.element body)

/-- The groups that captures of these bodies open. A body that begins with a question mark makes
another kind of group of its parentheses. -/
def groupTexts (bodies : List Element) : List Text :=
  (bodies.filter fun b => b.grammar.head? ≠ some '?').map fun b => wrap ['('] b.grammar

lemma groupTexts_append (bs cs : List Element) :
    groupTexts (bs ++ cs) = groupTexts bs ++ groupTexts cs := by
  rw [groupTexts, List.filter_append, List.map_append, groupTexts, groupTexts]

/-! ### Texts without groups -/

/-- The characters that a scanner takes notice of outside sets. -/
def isScanSign (c : Char) : Bool := "()\\[".toList.contains c

lemma quiet_append {g h : Text} (hg : Quiet g) (hh : Quiet h) : Quiet (g ++ h) := by
  unfold Quiet at *
  rw [List.foldlM_append, hg]
  exact hh

lemma pass?_plain {c : Char} (h : isScanSign c = false) : pass? .plain c = some .plain := by
  simp only [isScanSign, List.contains_eq_mem, decide_eq_false_iff_not] at h
  have hne : c ≠ '(' ∧ c ≠ ')' ∧ c ≠ '\\' ∧ c ≠ '[' := by simpa using h
  simp [pass?, ScanMode.after, hne]

lemma quiet_of_forall {g : Text} (h : ∀ c ∈ g, isScanSign c = false) : Quiet g := by
  induction g with
  | nil => rfl
  | cons c g ih =>
    obtain ⟨hc, hg⟩ := List.forall_mem_cons.mp h
    unfold Quiet at *
    rw [List.foldlM_cons, pass?_plain hc]
    exact ih hg

lemma isScanSign_of_not_special {c : Char} (h : isSpecialChar c = false) : isScanSign c = false := by
  by_contra hsign
  rw [Bool.not_eq_false] at hsign
  have hall : "()\\[".toList.all isSpecialChar = true := by decide
  have hspecial := List.all_eq_true.mp hall c (List.contains_iff_mem.mp hsign)
  simp [h] at hspecial

lemma isScanSign_of_mem_toDigits {b : ℕ} (hb : 1 < b) (hle : b ≤ 16) (n : ℕ) :
    ∀ c ∈ Nat.toDigits b n, isScanSign c = false := by
  have hdigit : ∀ d < 16, isScanSign (Nat.digitChar d) = false := by decide
  exact Text.forall_mem_toDigits hb (fun d hd => hdigit d (hd.trans_le hle)) n

lemma quiet_escapeEach (t : Text) : Quiet (escapeEach t) := by
  induction t with
  | nil => rfl
  | cons c t ih =>
    cases hc : isSpecialChar c with
    | true =>
      rw [Sign.escapeEach_cons_of_special hc]
      exact ih
    | false =>
      rw [Sign.escapeEach_cons_of_not_special hc]
      have hsign := isScanSign_of_not_special hc
      exact quiet_append (g := [c]) (quiet_of_forall (by simpa using hsign)) ih

/-- The members of a set, from any place inside it. -/
lemma foldlM_pass?_members {m : ScanMode} (hm : m = .opened ∨ m = .negated ∨ m = .inSet) {cs : Text}
    (hcs : cs ≠ [] ∨ m = .inSet) : (escapeEach cs).foldlM pass? m = some .inSet := by
  induction cs generalizing m with
  | nil =>
    obtain rfl := hcs.resolve_left (by simp)
    rfl
  | cons c cs ih =>
    have hrest := ih (m := .inSet) (by simp) (by simp)
    cases hc : isSpecialChar c with
    | true =>
      have hpass : ['\\', c].foldlM pass? m = some .inSet := by
        rcases hm with rfl | rfl | rfl <;> rfl
      have hsplit : escapeEach (c :: cs) = ['\\', c] ++ escapeEach cs :=
        Sign.escapeEach_cons_of_special hc cs
      rw [hsplit, List.foldlM_append, hpass]
      exact hrest
    | false =>
      have hne {d : Char} (hd : isSpecialChar d = true) : c ≠ d := Sign.ne_of_not_special hc hd
      have hpass : pass? m c = some .inSet := by
        rcases hm with rfl | rfl | rfl <;>
          simp [pass?, ScanMode.after, hne (d := '\\') (by decide), hne (d := '^') (by decide),
            hne (d := ']') (by decide)]
      rw [Sign.escapeEach_cons_of_not_special hc, List.foldlM_cons, hpass]
      exact hrest

lemma quiet_set {cs : Text} {m : ScanMode} (mark : Text) (hmark : mark.foldlM pass? .plain = some m)
    (hm : m = .opened ∨ m = .negated) (hcs : cs ≠ []) : Quiet (mark ++ (escapeEach cs ++ [']'])) := by
  have hmembers := foldlM_pass?_members (hm.imp_right Or.inl) (Or.inl hcs)
  unfold Quiet
  rw [List.foldlM_append, hmark]
  change List.foldlM _ m _ = _
  rw [List.foldlM_append, hmembers]
  rfl

lemma quiet_charIn {cs : Text} (h : cs ≠ []) : Quiet (charIn cs).grammar := by
  have hgrammar : (charIn cs).grammar = _ := charInGrammar_eq cs
  rw [hgrammar]
  split_ifs
  · exact quiet_escapeEach cs
  · exact quiet_set ['['] rfl (.inl rfl) h

lemma quiet_charNotIn {cs : Text} (h : cs ≠ []) : Quiet (charNotIn cs).grammar := by
  have hgrammar : (charNotIn cs).grammar = "[^".toList ++ (escapeEach cs ++ [']']) := by
    rw [← escapePattern_eq_escapeEach, ← List.append_assoc]
    rfl
  rw [hgrammar]
  exact quiet_set _ rfl (.inr rfl) h

lemma quiet_braces {body : Text} (h : Quiet body) : Quiet (Repeat.braces body) :=
  quiet_append (quiet_append (g := ['\x7b']) rfl h) rfl

lemma quiet_repeat (times : Repeat) : Quiet times.grammar := by
  have hdecimal (n : ℕ) : Quiet (Text.decimal n) :=
    quiet_of_forall (isScanSign_of_mem_toDigits (by decide) (by decide) _)
  have hcore : Quiet times.core := by
    cases times with
    | optional _ | oneOrMore _ | zeroOrMore _ => rfl
    | exactly n => exact quiet_braces (hdecimal n)
    | atLeast n _ => exact quiet_braces (quiet_append (hdecimal n) rfl)
    | atMost m _ => exact quiet_braces (quiet_append (g := [',']) rfl (hdecimal m))
    | between n m _ =>
      exact quiet_braces (quiet_append (hdecimal n) (quiet_append (g := [',']) rfl (hdecimal m)))
  refine quiet_append hcore ?_
  cases times.collect with
  | none => rfl
  | some c => cases c <;> rfl

lemma quiet_special {s : SpecialChar} (h : s.hasName = false) : Quiet s.grammar := by
  cases s with
  | codePoint n =>
    have hhex : Quiet (Text.hex n) :=
      quiet_of_forall (isScanSign_of_mem_toDigits (by decide) (by decide) _)
    exact quiet_append (g := "\\x".toList) rfl (quiet_braces hhex)
  | control _ | named _ | withProperty _ | withoutProperty _ => contradiction
  | _ => decide

lemma quiet_backReference (id : ℕ) : Quiet (backReference id).grammar := by
  have hdigits : ∀ c ∈ Text.decimal (id + 1), isScanSign c = false :=
    isScanSign_of_mem_toDigits (by decide) (by decide) _
  obtain ⟨d, ds, hcons⟩ := List.exists_cons_of_ne_nil (Text.decimal_ne_nil (id + 1))
  have hgrammar : (backReference id).grammar = ['\\', d] ++ ds := congrArg ('\\' :: ·) hcons
  rw [hcons] at hdigits
  rw [hgrammar]
  exact quiet_append rfl (quiet_of_forall (List.forall_mem_cons.mp hdigits).2)

/-! ### The groups of a grammar -/

variable {g : Text} {gs : List Text}

/-- A group with a mark is none of a capture. -/
lemma scans_wrap_mark (mark : Text) (hmark : Quiet ('?' :: mark)) (hg : Scans g gs) :
    Scans (wrap ('(' :: '?' :: mark) g) gs := by
  have hsplit : wrap ('(' :: '?' :: mark) g = '(' :: (('?' :: mark ++ g) ++ [')']) := by simp [wrap]
  rw [hsplit]
  exact (hmark.scans.append hg).parenthesized

lemma scans_unit (weight : ℕ) (hg : Scans g gs) : Scans (unit weight g) gs := by
  unfold unit
  split_ifs
  · exact scans_wrap_mark _ rfl hg
  · exact hg

/-- The grammar of an element opens the groups of its captures. -/
def Numbers (e : Element) : Prop :=
  ∀ path, Scans e.grammar (groupTexts (captured (nodesAt e path)))

variable {e : Element} {es : List Element}

lemma numbers_leaf (h : e.isLeaf = true) : Numbers e := by
  intro path
  cases e with
  | newLine => exact scans_wrap_mark [':'] rfl (Quiet.scans (g := "[\\r]?+[\\n]".toList) rfl)
  | any | space | notSpace | digit | notDigit | word | notWord | quote | apostrophe | start | stop
  | firstInInput | lastInInput | boundary | notBoundary | endOfPreviousMatch | skip | spaces | words =>
    exact Quiet.scans rfl
  | _ => contradiction

lemma scans_options (o : MatchOptions) : Scans o.setting [] ∧ Scans o.resetting [] := by
  have hdirective (on : Bool) (mark : Text) (hmark : Quiet ('?' :: mark)) :
      Scans (if on then wrap ('(' :: '?' :: mark) [] else []) [] := by
    split_ifs
    · exact scans_wrap_mark mark hmark scans_nil
    · exact scans_nil
  constructor
  · exact (((hdirective o.matchCase "-i".toList rfl).append
      (hdirective o.anchorsMatchLines ['m'] rfl)).append
      (hdirective o.anyIncludesLineChars ['s'] rfl)).append
      (hdirective o.unicodeWordBoundaries ['w'] rfl)
  · exact (((hdirective o.matchCase ['i'] rfl).append
      (hdirective o.anchorsMatchLines "-m".toList rfl)).append
      (hdirective o.anyIncludesLineChars "-s".toList rfl)).append
      (hdirective o.unicodeWordBoundaries "-w".toList rfl)

lemma groupTexts_cons (b : Element) (bs : List Element) :
    groupTexts (b :: bs) =
      (if b.grammar.head? = some '?' then [] else [wrap ['('] b.grammar]) ++ groupTexts bs := by
  unfold groupTexts
  split_ifs with h <;> simp [h]

lemma Numbers.group (h : Numbers e) (kind : GroupKind) : Numbers (kind.element e) := by
  intro path
  cases kind with
  | capture =>
    have hbody := (h (Outline.onlyChild path)).parenthesized
    have hcaptured : captured (nodesAt (.capture e) path) =
        e :: captured (nodesAt e (Outline.onlyChild path)) := rfl
    rwa [GroupKind.element, hcaptured, groupTexts_cons]
  | _ => exact scans_wrap_mark _ rfl (h (Outline.onlyChild path))

lemma Numbers.repeated (h : Numbers e) (times : Repeat) : Numbers (.repeated e times) := by
  intro path
  have hunit := (scans_unit e.weight (h (Outline.onlyChild path))).append (quiet_repeat times).scans
  rwa [List.append_nil] at hunit

lemma scans_grammars (h : ∀ e ∈ es, Numbers e) (path : List ℕ) (index : ℕ) :
    Scans (grammars es) (groupTexts (captured (insideEach es path index))) := by
  induction es generalizing index with
  | nil => exact scans_nil
  | cons e es ih =>
    obtain ⟨he, hes⟩ := List.forall_mem_cons.mp h
    have hall := (he (path ++ [index])).append (ih hes (index + 1))
    rwa [← groupTexts_append, ← captured_append] at hall

lemma scans_joinAlternatives (h : ∀ e ∈ es, Numbers e) (path : List ℕ) (index : ℕ) :
    Scans (joinAlternatives (units es)) (groupTexts (captured (insideEach es path index))) := by
  induction es generalizing index with
  | nil => exact scans_nil
  | cons e es ih =>
    obtain ⟨he, hes⟩ := List.forall_mem_cons.mp h
    have hfirst := scans_unit e.weight (he (path ++ [index]))
    have hrest := ih hes (index + 1)
    have hsplit : insideEach (e :: es) path index =
        nodesAt e (path ++ [index]) ++ insideEach es path (index + 1) := rfl
    rw [hsplit, captured_append, groupTexts_append]
    cases es with
    | nil =>
      have hnone : groupTexts (captured (insideEach [] path (index + 1))) = [] := rfl
      rw [hnone, List.append_nil]
      exact hfirst
    | cons f es => exact hfirst.append ((Quiet.scans (g := ['|']) rfl).append hrest)

lemma numbers_either (h : ∀ e ∈ es, Numbers e) : Numbers (.either es) := by
  intro path
  have hjoined := scans_joinAlternatives h path 1
  have hgrammar : (either es).grammar = if 2 ≤ es.length then wrap "(?:".toList
      (joinAlternatives (units es)) else joinAlternatives (units es) := rfl
  rw [hgrammar]
  split_ifs
  · exact scans_wrap_mark _ rfl hjoined
  · exact hjoined

lemma Scannable.numbers (h : Scannable e) : Numbers e := by
  induction h with
  | leaf h => exact numbers_leaf h
  | text t =>
    intro path
    rw [grammar_text]
    exact (quiet_escapeEach t).scans
  | charIn h => exact fun _ => (quiet_charIn h).scans
  | charNotIn h => exact fun _ => (quiet_charNotIn h).scans
  | special h => exact fun _ => (quiet_special h).scans
  | backReference id => exact fun _ => (quiet_backReference id).scans
  | setOptions o => exact fun _ => (scans_options o).1
  | resetOptions o => exact fun _ => (scans_options o).2
  | repeated _ times ih => exact ih.repeated times
  | either _ ih => exact numbers_either ih
  | sequence _ ih => exact fun path => scans_grammars ih path 1
  | group _ kind ih => exact ih.group kind

/-! ### Captures that begin with a question mark -/

/-- No repetition among some nodes has an operand that writes nothing. -/
def Written (nodes : List (List ℕ × Element)) : Prop :=
  ∀ node ∈ nodes, ∀ body times, node.2 = .repeated body times → body.grammar ≠ []

lemma written_append {xs ys : List (List ℕ × Element)} :
    Written (xs ++ ys) ↔ Written xs ∧ Written ys := List.forall_mem_append

def Unqueried (t : Text) : Prop := t.head? ≠ some '?'

lemma unqueried_nil : Unqueried [] := by simp [Unqueried]

lemma unqueried_cons {c : Char} (t : Text) (hc : c ≠ '?') : Unqueried (c :: t) := by
  simpa [Unqueried] using hc

lemma unqueried_append {s t : Text} (hs : Unqueried s) (ht : Unqueried t) : Unqueried (s ++ t) := by
  cases s with
  | nil => exact ht
  | cons c s => exact hs

lemma unqueried_escapeEach (t : Text) : Unqueried (escapeEach t) := by
  by_cases ht : t = []
  · rw [ht]
    exact unqueried_nil
  · have hunmarked := (Sign.unmarked_escapeEach ht []).2
    rwa [List.append_nil] at hunmarked

/-- An element whose grammar, and those of all that is captured in it, begin with no question mark if
its operands are written. -/
def Opens (e : Element) : Prop :=
  ∀ path, Written (nodesAt e path) →
    Unqueried e.grammar ∧ ∀ b ∈ captured (nodesAt e path), Unqueried b.grammar

/-- An element without captures. -/
lemma opens_of_captured (he : Unqueried e.grammar) (hnone : ∀ path, captured (nodesAt e path) = []) :
    Opens e := fun path _ => ⟨he, by simp [hnone path]⟩

lemma unqueried_unit (hg : Unqueried g) (weight : ℕ) : Unqueried (unit weight g) := by
  unfold unit
  split_ifs
  · exact unqueried_cons _ (by decide)
  · exact hg

lemma opens_leaf (h : e.isLeaf = true) : Opens e := by
  cases e with
  | any | space | notSpace | digit | notDigit | word | notWord | newLine | quote | apostrophe | start
  | stop | firstInInput | lastInInput | boundary | notBoundary | endOfPreviousMatch | skip | spaces
  | words => exact opens_of_captured (unqueried_cons _ (by decide)) fun _ => rfl
  | _ => contradiction

lemma unqueried_options (o : MatchOptions) : Unqueried o.setting ∧ Unqueried o.resetting := by
  have hdirective (on : Bool) (mark : Text) : Unqueried (if on then '(' :: mark else []) := by
    split_ifs
    · exact unqueried_cons _ (by decide)
    · exact unqueried_nil
  constructor
  all_goals
    exact unqueried_append (unqueried_append (unqueried_append (hdirective o.matchCase _)
      (hdirective o.anchorsMatchLines _)) (hdirective o.anyIncludesLineChars _))
      (hdirective o.unicodeWordBoundaries _)

lemma Opens.repeated (h : Opens e) (times : Repeat) : Opens (.repeated e times) := by
  intro path hwritten
  obtain ⟨hself, hbody⟩ := List.forall_mem_cons.mp hwritten
  obtain ⟨hstart, hcaptured⟩ := h (Outline.onlyChild path) hbody
  refine ⟨?_, hcaptured⟩
  -- the operand writes something, so the quantifier is not in front
  have hunit : unit e.weight e.grammar ≠ [] := by
    unfold unit
    split_ifs
    · exact List.cons_ne_nil _ _
    · exact hself e times rfl
  obtain ⟨c, t, hcons⟩ := List.exists_cons_of_ne_nil hunit
  have hgrammar : (Element.repeated e times).grammar = (c :: t) ++ times.grammar :=
    congrArg (· ++ times.grammar) hcons
  have hunqueried := unqueried_unit hstart e.weight
  rw [hcons] at hunqueried
  rw [hgrammar]
  exact hunqueried

lemma Opens.group (h : Opens e) (kind : GroupKind) : Opens (kind.element e) := by
  intro path hwritten
  cases kind with
  | capture =>
    obtain ⟨hstart, hcaptured⟩ :=
      h (Outline.onlyChild path) (List.forall_mem_cons.mp hwritten).2
    exact ⟨unqueried_cons _ (by decide), List.forall_mem_cons.mpr ⟨hstart, hcaptured⟩⟩
  | _ =>
    exact ⟨unqueried_cons _ (by decide),
      (h (Outline.onlyChild path) (List.forall_mem_cons.mp hwritten).2).2⟩

lemma opens_each (h : ∀ e ∈ es, Opens e) (path : List ℕ) (index : ℕ)
    (hwritten : Written (insideEach es path index)) :
    (∀ e ∈ es, Unqueried e.grammar) ∧
      ∀ b ∈ captured (insideEach es path index), Unqueried b.grammar := by
  induction es generalizing index with
  | nil => exact ⟨by simp, by simp [insideEach, captured]⟩
  | cons e es ih =>
    obtain ⟨he, hes⟩ := List.forall_mem_cons.mp h
    obtain ⟨hfirst, hrest⟩ := written_append.mp hwritten
    obtain ⟨hstart, hcaptured⟩ := he (path ++ [index]) hfirst
    obtain ⟨hstarts, hlater⟩ := ih hes (index + 1) hrest
    have hsplit : captured (insideEach (e :: es) path index) =
        captured (nodesAt e (path ++ [index])) ++ captured (insideEach es path (index + 1)) :=
      captured_append _ _
    rw [hsplit]
    exact ⟨List.forall_mem_cons.mpr ⟨hstart, hstarts⟩, List.forall_mem_append.mpr ⟨hcaptured, hlater⟩⟩

lemma unqueried_grammars (h : ∀ e ∈ es, Unqueried e.grammar) : Unqueried (grammars es) := by
  induction es with
  | nil => exact unqueried_nil
  | cons e es ih =>
    obtain ⟨he, hes⟩ := List.forall_mem_cons.mp h
    exact unqueried_append he (ih hes)

lemma unqueried_either (h : ∀ e ∈ es, Unqueried e.grammar) : Unqueried (either es).grammar := by
  cases es with
  | nil => exact unqueried_nil
  | cons e es =>
    cases es with
    | nil => exact unqueried_unit (h e List.mem_cons_self) e.weight
    | cons f es => exact unqueried_cons _ (by decide)

lemma Scannable.opens (h : Scannable e) : Opens e := by
  induction h with
  | leaf h => exact opens_leaf h
  | text t =>
    refine opens_of_captured ?_ fun _ => rfl
    rw [grammar_text]
    exact unqueried_escapeEach t
  | @charIn cs h =>
    refine opens_of_captured ?_ fun _ => rfl
    have hgrammar : (Element.charIn cs).grammar = _ := charInGrammar_eq cs
    rw [hgrammar]
    split_ifs
    · exact unqueried_escapeEach cs
    · exact unqueried_cons _ (by decide)
  | charNotIn h => exact opens_of_captured (unqueried_cons _ (by decide)) fun _ => rfl
  | @special s h =>
    refine opens_of_captured ?_ fun _ => rfl
    cases s <;> exact unqueried_cons _ (by decide)
  | backReference id => exact opens_of_captured (unqueried_cons _ (by decide)) fun _ => rfl
  | setOptions o => exact opens_of_captured (unqueried_options o).1 fun _ => rfl
  | resetOptions o => exact opens_of_captured (unqueried_options o).2 fun _ => rfl
  | repeated _ times ih => exact ih.repeated times
  | either _ ih =>
    intro path hwritten
    obtain ⟨hstarts, hcaptured⟩ := opens_each ih path 1 (List.forall_mem_cons.mp hwritten).2
    exact ⟨unqueried_either hstarts, hcaptured⟩
  | sequence _ ih =>
    intro path hwritten
    obtain ⟨hstarts, hcaptured⟩ := opens_each ih path 1 (List.forall_mem_cons.mp hwritten).2
    exact ⟨unqueried_grammars hstarts, hcaptured⟩
  | group _ kind ih => exact ih.group kind

/-! ### The numbers -/

/-- The line of a capture has the number that the captures in front of it leave. -/
lemma outline_capture {before after : List (List ℕ × Element)} {path : List ℕ} {body : Element} :
    outline 0 (before ++ (path, .capture body) :: after) =
      outline 0 before ++ (Outline.lineStart path ++ ("Match and capture #".toList ++
        Text.decimal ((captured before).length + 1) ++ [':']) ++
        outline ((captured before).length + 1) after) := by
  rw [outline_append, Nat.zero_add]
  rfl

lemma length_groupTexts_eq_iff {bs : List Element} :
    (groupTexts bs).length = bs.length ↔ ∀ b ∈ bs, Unqueried b.grammar := by
  rw [groupTexts, List.length_map, List.length_filter_eq_length_iff]
  simp [Unqueried]

lemma groupTexts_eq_iff {bs : List Element} :
    groupTexts bs = bs.map (fun b => wrap ['('] b.grammar) ↔ ∀ b ∈ bs, Unqueried b.grammar := by
  constructor
  · intro h
    rw [← length_groupTexts_eq_iff, h, List.length_map]
  · intro h
    have hall : bs.filter (fun b => b.grammar.head? ≠ some '?') = bs :=
      List.filter_eq_self.mpr fun b hb => by simpa [Unqueried] using h b hb
    rw [groupTexts, hall]

/-- A scan of a grammar ends as it began, and the groups that it meets are those of the captures that
do not begin with a question mark. They are as many as the captures, and the same, exactly if none
begins with one, as where each operand writes something. The steps, the back references and the
groups of a match all count from one end: the capture behind `j` others has the line number, the
reference number and the engine's group `j + 1`, which a match shows as `j`. -/
theorem groups_numbered_alike (h : Scannable e) :
    readAll? {} e.grammar = some {} ∧
      groups e.grammar = (groupTexts (captured e.nodes)).map some ∧
      ((groups e.grammar).length = (captured e.nodes).length ↔
        ∀ b ∈ captured e.nodes, b.grammar.head? ≠ some '?') ∧
      (groups e.grammar = (captured e.nodes).map (fun b => some (wrap ['('] b.grammar)) ↔
        ∀ b ∈ captured e.nodes, b.grammar.head? ≠ some '?') ∧
      (Written e.nodes → ∀ b ∈ captured e.nodes, b.grammar.head? ≠ some '?') ∧
      (∀ before path body after, e.nodes = before ++ (path, .capture body) :: after →
        (captured e.nodes)[(captured before).length]? = some body ∧
        Outline.lineStart [] ++ e.steps =
          outline 0 before ++ (Outline.lineStart path ++ ("Match and capture #".toList ++
            Text.decimal ((captured before).length + 1) ++ [':']) ++
            outline ((captured before).length + 1) after)) ∧
      (∀ j, (backReference j).grammar = '\\' :: Text.decimal (j + 1)) ∧
      ∀ t previous event range j, .group range j ∈ Regex.eventFragments t previous event ↔
        ∃ span, event.group? (j + 1) = some span ∧ range = .ofByteSpan t span := by
  have hscans : Scans e.grammar (groupTexts (captured e.nodes)) := h.numbers []
  have hgroups : groups e.grammar = (groupTexts (captured e.nodes)).map some := by
    simpa [groups, openings] using hscans.opens []
  refine ⟨hscans.returns 0, hgroups, ?_, ?_, fun hwritten => (h.opens [] hwritten).2, ?_, fun _ => rfl,
    fun _ _ _ _ _ => Regex.mem_eventFragments_iff⟩
  · rw [hgroups, List.length_map]
    exact length_groupTexts_eq_iff
  · have hmap : (captured e.nodes).map (fun b => some (wrap ['('] b.grammar)) =
        ((captured e.nodes).map fun b => wrap ['('] b.grammar).map some := by
      rw [List.map_map]
      rfl
    rw [hgroups, hmap, (Option.some_injective Text).list_map.eq_iff]
    exact groupTexts_eq_iff
  · intro before path body after hsplit
    rw [steps_eq_outline, hsplit]
    exact ⟨getElem?_captured, outline_capture⟩

/-- In `(\()[\(\]]((?:(a)|b))\2` the back reference means the alternatives, which the steps call the
second capture. -/
theorem groups_numbered_alike_nested :
    let e := sequence [capture (text ['(']), charIn ['(', ']'],
      capture (either [capture (text ['a']), text ['b']]), backReference 1]
    Scannable e ∧ Written e.nodes ∧
      e.grammar = "(\\()[\\(\\]]((?:(a)|b))\\2".toList ∧
      groups e.grammar = ["(\\()".toList, "((?:(a)|b))".toList, "(a)".toList].map some ∧
      (captured e.nodes)[1]? = some (either [capture (text ['a']), text ['b']]) := by
  intro e
  have hscannable : Scannable e := by
    refine .sequence fun b hb => ?_
    simp only [List.mem_cons, List.not_mem_nil, or_false] at hb
    rcases hb with rfl | rfl | rfl | rfl
    · exact .group (.text _) .capture
    · exact .charIn (by decide)
    · refine .group (.either fun b hb => ?_) .capture
      simp only [List.mem_cons, List.not_mem_nil, or_false] at hb
      rcases hb with rfl | rfl
      · exact .group (.text _) .capture
      · exact .text _
    · exact .backReference 1
  have hgrammar : e.grammar = "(\\()[\\(\\]]((?:(a)|b))\\2".toList := by decide +kernel
  have hwritten : Written e.nodes := by
    simp [Written, e, nodes, nodesAt, inside, insideEach]
  obtain ⟨-, hgroups, -, -, -, hnumbers, -⟩ := groups_numbered_alike hscannable
  refine ⟨hscannable, hwritten, hgrammar, ?_, ?_⟩
  · rw [hgroups]
    decide +kernel
  · exact (hnumbers [([], e), ([1], capture (text ['('])), ([1, 1], text ['(']),
      ([2], charIn ['(', ']'])] [3] _ _ rfl).1

/-- The question mark behind a text that is empty makes another kind of group of the first capture.
So `b` is the second capture in the steps, and the first group of a match. -/
theorem groups_numbered_alike_unwritten :
    let b := text ['b']
    let e := sequence [capture (sequence [repeated (text []) (.optional none), text ":a".toList]),
      capture b]
    Scannable e ∧ e.grammar = "(?:a)(b)".toList ∧
      captured e.nodes = [sequence [repeated (text []) (.optional none), text ":a".toList], b] ∧
      groups e.grammar = [some "(b)".toList] ∧
      e.steps = ("Match sequence:\n\t1) Match and capture #1:\n\t\t1.1) Match sequence:" ++
        "\n\t\t\t1.1.1) Match at most once:\n\t\t\t\t1.1.1.1) \n\t\t\t1.1.2) :a" ++
        "\n\t2) Match and capture #2:\n\t\t2.1) b").toList ∧
      ∃ r : Regex, Regex.compile? e.grammar (.ofCase true) = some r ∧
        r.description ":ab".toList =
          [.unmatched (.ofBounds 0 1), .matched (.ofBounds 1 3), .group (.ofBounds 2 3) 0] := by
  intro b e
  refine ⟨?_, by decide +kernel, rfl, ?_, ?_, ?_⟩
  · refine .sequence fun c hc => ?_
    simp only [List.mem_cons, List.not_mem_nil, or_false] at hc
    rcases hc with rfl | rfl
    · refine .group (.sequence fun c hc => ?_) .capture
      simp only [List.mem_cons, List.not_mem_nil, or_false] at hc
      rcases hc with rfl | rfl
      · exact .repeated (.text _) _
      · exact .text _
    · exact .group (.text _) .capture
  · decide +kernel
  · decide +kernel
  · exact ⟨(Regex.compile? e.grammar (.ofCase true)).get (by decide +kernel), by decide +kernel,
      by decide +kernel⟩

end Element

end PatternAlgebra
