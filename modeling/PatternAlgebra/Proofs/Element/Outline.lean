import PatternAlgebra.Proofs.Element.Nodes
import PatternAlgebra.Proofs.Regex.Template
import PatternAlgebra.Proofs.Text.LetterCase

/-! The outline line by line. A node is reached by the numbers of children on the way to it, and an
element comes before what is inside it and that before its later siblings. Cut at its line feeds,
the outline has one line for each node in this order. -/
namespace PatternAlgebra.Element

open Outline

variable {e x c : Element} {es : List Element} {path p : List ℕ} {n : ℕ}

/-! ### Paths -/

/-- The elements inside an element of a kind that has any. -/
def children? : Element → Option (List Element)
  | repeated body _ | grouping body | capture body | atomic body | lookAhead body | notAhead body
  | lookBehind body | notBehind body => some [body]
  | either es | sequence es => some es
  | _ => none

def children (e : Element) : List Element := e.children?.getD []

/-- The element at a path. Children count from one. -/
def at? : List ℕ → Element → Option Element
  | [], e => some e
  | 0 :: _, _ => none
  | (i + 1) :: path, e => e.children[i]?.bind (at? path)

lemma sizeOf_lt_of_mem_children (h : c ∈ e.children) : sizeOf c < sizeOf e := by
  cases e with
  | repeated | grouping | capture | atomic | lookAhead | notAhead | lookBehind | notBehind =>
    obtain rfl := List.mem_singleton.mp h
    simp +arith
  | either es | sequence es =>
    have hlt := List.sizeOf_lt_of_mem (show c ∈ es from h)
    simp
    omega
  | _ => exact absurd h List.not_mem_nil

/-- What passes from children to their parent is true of all elements. -/
@[elab_as_elim]
theorem induction_on_children {motive : Element → Prop}
    (h : ∀ e, (∀ c ∈ e.children, motive c) → motive e) (e : Element) : motive e :=
  h e fun c _ => induction_on_children h c
termination_by e
decreasing_by exact sizeOf_lt_of_mem_children ‹_›

lemma nodesAt_eq_cons (e : Element) (path : List ℕ) :
    nodesAt e path = (path, e) :: insideEach e.children path 1 := by
  cases e <;> simp [nodesAt, inside, insideEach, children, children?, onlyChild]

lemma insideEach_cons {index : ℕ} :
    insideEach (e :: es) path index =
      nodesAt e (path ++ [index]) ++ insideEach es path (index + 1) := rfl

/-- The nodes of children are what paths lead to from their numbers on. -/
lemma mem_insideEach_iff (hes : ∀ c ∈ es, ∀ path p, (p, x) ∈ nodesAt c path ↔
      ∃ q, p = path ++ q ∧ at? q c = some x) {index : ℕ} :
    (p, x) ∈ insideEach es path index ↔
      ∃ i q, p = path ++ (index + i) :: q ∧ es[i]?.bind (at? q) = some x := by
  induction es generalizing index with
  | nil => simp [insideEach]
  | cons c es ih =>
    obtain ⟨hc, hes⟩ := List.forall_mem_cons.mp hes
    rw [insideEach_cons, List.mem_append, hc, ih hes]
    constructor
    · rintro (⟨q, rfl, hq⟩ | ⟨i, q, rfl, hq⟩)
      · exact ⟨0, q, by simp, hq⟩
      · exact ⟨i + 1, q, by rw [Nat.add_assoc, Nat.add_comm 1], hq⟩
    · rintro ⟨i, q, rfl, hq⟩
      cases i with
      | zero => exact Or.inl ⟨q, by simp, hq⟩
      | succ i => exact Or.inr ⟨i, q, by rw [Nat.add_assoc, Nat.add_comm 1], hq⟩

/-- The nodes of an element are what paths lead to. -/
lemma mem_nodesAt_iff (e : Element) (path p : List ℕ) :
    (p, x) ∈ nodesAt e path ↔ ∃ q, p = path ++ q ∧ at? q e = some x := by
  induction e using induction_on_children generalizing path p with
  | h e ih =>
    rw [nodesAt_eq_cons, List.mem_cons, mem_insideEach_iff ih]
    constructor
    · rintro (h | ⟨i, q, rfl, hq⟩)
      · obtain ⟨rfl, rfl⟩ := Prod.mk.inj h
        exact ⟨[], (List.append_nil p).symm, rfl⟩
      · exact ⟨(i + 1) :: q, by rw [Nat.add_comm], hq⟩
    · rintro ⟨q, rfl, hq⟩
      match q, hq with
      | [], hq => exact Or.inl (by rw [List.append_nil, Option.some.inj hq])
      | 0 :: q, hq => exact absurd hq.symm (Option.some_ne_none x)
      | (i + 1) :: q, hq => exact Or.inr ⟨i, q, by rw [Nat.add_comm], hq⟩

lemma mem_nodes_iff (e : Element) (p : List ℕ) : (p, x) ∈ e.nodes ↔ at? p e = some x := by
  rw [nodes, mem_nodesAt_iff]
  simp

/-- An element stands before what is inside it, and that before its later siblings. -/
lemma pairwise_nodesAt (e : Element) (path : List ℕ) :
    (nodesAt e path).Pairwise fun a b => a.1 < b.1 := by
  induction e using induction_on_children generalizing path with
  | h e ih =>
    have heach : ∀ (cs : List Element) (index : ℕ), (∀ c ∈ cs, ∀ path,
        (nodesAt c path).Pairwise fun a b => a.1 < b.1) →
        (insideEach cs path index).Pairwise fun a b => a.1 < b.1 := by
      intro cs
      induction cs with
      | nil => exact fun _ _ => List.Pairwise.nil
      | cons c cs ihcs =>
        intro index hcs
        obtain ⟨hc, hcs⟩ := List.forall_mem_cons.mp hcs
        rw [insideEach_cons, List.pairwise_append]
        refine ⟨hc _, ihcs (index + 1) hcs, ?_⟩
        rintro ⟨p, x⟩ ha ⟨p', x'⟩ hb
        obtain ⟨q, rfl, -⟩ := (mem_nodesAt_iff c _ p).mp ha
        obtain ⟨i, q', rfl, -⟩ := (mem_insideEach_iff fun c _ => mem_nodesAt_iff c).mp hb
        simp only [List.append_assoc, List.singleton_append]
        exact List.append_left_lt (List.cons_lt_cons_iff.mpr (Or.inl (by omega)))
    rw [nodesAt_eq_cons, List.pairwise_cons]
    refine ⟨?_, heach e.children 1 ih⟩
    rintro ⟨p, x⟩ hp
    obtain ⟨i, q, rfl, -⟩ := (mem_insideEach_iff fun c _ => mem_nodesAt_iff c).mp hp
    have hlt : path ++ [] < path ++ (1 + i) :: q := List.append_left_lt (List.nil_lt_cons (1 + i) q)
    rwa [List.append_nil] at hlt

/-! ### Lines -/

/-- What comes before the phrase in the line of the node at a path. -/
def lead : List ℕ → Text
  | [] => []
  | path@(_ :: _) => List.replicate path.length '\t' ++ pathText path ++ ") ".toList

/-- The text of an element that its phrase shows as it is. -/
def shownText : Element → Text
  | text t => t
  | special (.control name) | special (.named name) | special (.withProperty name)
  | special (.withoutProperty name) => name
  | _ => []

/-- The lines of some nodes behind `captures` captures. -/
def lines : (captures : ℕ) → List (List ℕ × Element) → List Text
  | _, [] => []
  | n, (path, x) :: nodes =>
    (lead path ++ x.phrase n) :: lines (n + (captured [(path, x)]).length) nodes

lemma getElem?_lines {nodes : List (List ℕ × Element)} {i : ℕ} (h : nodes[i]? = some (path, x)) :
    (lines n nodes)[i]? = some (lead path ++ x.phrase (n + (captured (nodes.take i)).length)) := by
  induction nodes generalizing n i with
  | nil => contradiction
  | cons node nodes ih =>
    cases i with
    | zero =>
      obtain rfl := Option.some.inj h
      rfl
    | succ i =>
      have hrest := ih (n := n + (captured [node]).length) h
      rw [List.take_succ_cons, captured_cons, List.length_append, ← Nat.add_assoc]
      exact hrest

lemma length_lines (n : ℕ) (nodes : List (List ℕ × Element)) :
    (lines n nodes).length = nodes.length := by
  induction nodes generalizing n with
  | nil => rfl
  | cons node nodes ih => exact congrArg Nat.succ (ih _)

/-! No phrase breaks its line, unless a text that it shows does. -/

/-- A text on one line. -/
def Unbroken (t : Text) : Prop := '\n' ∉ t

instance (t : Text) : Decidable (Unbroken t) := inferInstanceAs (Decidable (_ ∉ t))

lemma unbroken_nil : Unbroken [] := List.not_mem_nil

lemma Unbroken.append {s t : Text} (hs : Unbroken s) (ht : Unbroken t) : Unbroken (s ++ t) := by
  intro h
  exact (List.mem_append.mp h).elim hs ht

lemma unbroken_decimal (n : ℕ) : Unbroken (Text.decimal n) := fun h =>
  absurd (Text.isDigit_of_mem_decimal h) (by decide)

lemma unbroken_hex (n : ℕ) : Unbroken (Text.hex n) := by
  have hdigit : ∀ d < 16, Nat.digitChar d ≠ '\n' := by decide
  intro h
  exact Text.forall_mem_toDigits (P := (· ≠ '\n')) (by decide) hdigit n '\n' h rfl

lemma unbroken_join {mark : Text} {phrases : List Text} (hmark : Unbroken mark)
    (h : ∀ phrase ∈ phrases, Unbroken phrase) : Unbroken (join mark phrases) := by
  induction phrases using join.induct with
  | case1 => exact unbroken_nil
  | case2 phrase => exact h phrase (List.mem_singleton_self phrase)
  | case3 phrase phrases hne ih =>
    obtain ⟨hphrase, hphrases⟩ := List.forall_mem_cons.mp h
    rw [join.eq_3 mark phrase phrases hne]
    exact (hphrase.append hmark).append (ih hphrases)

lemma unbroken_charName (c : Char) : Unbroken (charName c) := by
  unfold charName
  cases hname : charNames.lookup c with
  | none =>
    intro h
    obtain rfl := List.mem_singleton.mp h
    exact absurd hname (by decide)
  | some name =>
    have hall : ∀ entry ∈ charNames, Unbroken entry.2.toList := by decide
    obtain ⟨before, after, hsplit, -⟩ := List.lookup_eq_some_iff.mp hname
    exact hall (c, name) (by simp [hsplit])

lemma unbroken_charList (chars : Text) : Unbroken (charList chars) := by
  have hnames : ∀ name ∈ chars.map fun c => lowerCaseText (charName c), Unbroken name := by
    intro name hname
    obtain ⟨c, -, rfl⟩ := List.mem_map.mp hname
    exact not_mem_lowerCaseText (by decide) (by decide) (by decide +kernel) (unbroken_charName c)
  unfold charList
  generalize chars.map (fun c => lowerCaseText (charName c)) = names at hnames
  have hinit : Unbroken (join ", ".toList names.dropLast) :=
    unbroken_join (by decide) fun name hname => hnames name (List.mem_of_mem_dropLast hname)
  have hlast : Unbroken (names.getLastD []) := by
    rw [List.getLastD_eq_getLast?]
    cases hlast : names.getLast? with
    | none => exact unbroken_nil
    | some name => exact hnames name (List.mem_of_getLast? hlast)
  rcases names with _ | ⟨name, _ | _⟩
  · exact unbroken_nil
  · exact hnames name (List.mem_singleton_self name)
  · exact (hinit.append (by decide)).append hlast

lemma unbroken_charInPhrase (chars : Text) : Unbroken (charInPhrase chars) := by
  rcases chars with _ | ⟨c, _ | ⟨d, chars⟩⟩
  · exact unbroken_nil
  · exact unbroken_charName c
  · exact unbroken_charList (c :: d :: chars)

lemma unbroken_charNotInPhrase (chars : Text) : Unbroken (charNotInPhrase chars) := by
  cases chars with
  | nil => exact unbroken_nil
  | cons c chars => exact Unbroken.append (by decide) (unbroken_charList (c :: chars))

lemma unbroken_optionsPhrase {phrases : List (Bool × String)}
    (h : ∀ phrase ∈ phrases, Unbroken phrase.2.toList) : Unbroken (optionsPhrase phrases) := by
  refine Unbroken.append (by decide) (unbroken_join (by decide) fun phrase hphrase => ?_)
  obtain ⟨entry, hentry, rfl⟩ := List.mem_map.mp hphrase
  exact h entry (List.mem_of_mem_filter hentry)

lemma unbroken_repeatPhrase (times : Repeat) : Unbroken (repeatPhrase times) := by
  have hcollect : ∀ c : Option Collect, Unbroken (c.elim [] collectPhrase) ∧
      Unbroken (c.elim [] optionalPhrase) := by
    rintro (_ | _ | _) <;> decide
  cases times with
  | optional c => exact Unbroken.append (by decide) (hcollect c).2
  | oneOrMore c | zeroOrMore c => exact Unbroken.append (by decide) (hcollect c).1
  | exactly n => exact (Unbroken.append (by decide) (unbroken_decimal n)).append (by decide)
  | atLeast n c | atMost n c =>
    refine Unbroken.append (Unbroken.append ?_ (by decide)) (hcollect c).1
    exact Unbroken.append (by decide) (unbroken_decimal n)
  | between n m c =>
    have hleast : Unbroken ("Match between ".toList ++ Text.decimal n ++ " and ".toList) :=
      (Unbroken.append (by decide) (unbroken_decimal n)).append (by decide)
    exact ((hleast.append (unbroken_decimal m)).append (by decide)).append (hcollect c).1

lemma unbroken_specialPhrase {s : SpecialChar} (h : Unbroken (shownText (special s))) :
    Unbroken (specialPhrase s) := by
  cases s with
  | codePoint n => exact Unbroken.append (by decide) (unbroken_hex n)
  | control | named | withProperty | withoutProperty => exact Unbroken.append (by decide) h
  | _ => exact of_decide_eq_true rfl

lemma unbroken_phrase (h : Unbroken e.shownText) (n : ℕ) : Unbroken (e.phrase n) := by
  cases e with
  | text t => exact h
  | charIn chars => exact unbroken_charInPhrase chars
  | charNotIn chars => exact unbroken_charNotInPhrase chars
  | special s => exact unbroken_specialPhrase h
  | backReference id => exact Unbroken.append (by decide) (unbroken_decimal (id + 1))
  | setOptions o | resetOptions o =>
    refine unbroken_optionsPhrase ?_
    simp only [List.forall_mem_cons]
    decide
  | repeated _ times => exact (unbroken_repeatPhrase times).append (by decide)
  | capture _ => exact (Unbroken.append (by decide) (unbroken_decimal (n + 1))).append (by decide)
  | _ => exact of_decide_eq_true rfl

lemma unbroken_lead (path : List ℕ) : Unbroken (lead path) := by
  cases path with
  | nil => exact unbroken_nil
  | cons i path =>
    have htabs : Unbroken (List.replicate (i :: path).length '\t') := by
      intro h
      exact absurd (List.eq_of_mem_replicate h) (by decide)
    have hpath : Unbroken (pathText (i :: path)) := by
      refine unbroken_join (by decide) fun number hnumber => ?_
      obtain ⟨index, -, rfl⟩ := List.mem_map.mp hnumber
      exact unbroken_decimal index
    exact (htabs.append hpath).append (by decide)

/-- The lines of some nodes that have text in front of them. -/
lemma splitOn_append_outline {nodes : List (List ℕ × Element)} {first : Text}
    (hfirst : Unbroken first) (hpaths : ∀ node ∈ nodes, node.1 ≠ [])
    (htexts : ∀ node ∈ nodes, Unbroken node.2.shownText) :
    (first ++ outline n nodes).splitOn '\n' = first :: lines n nodes := by
  induction nodes generalizing n first with
  | nil => exact (congrArg _ (List.append_nil first)).trans (List.splitOn_eq_singleton hfirst)
  | cons node nodes ih =>
    obtain ⟨path, x⟩ := node
    obtain ⟨hpath, hpaths⟩ := List.forall_mem_cons.mp hpaths
    obtain ⟨htext, htexts⟩ := List.forall_mem_cons.mp htexts
    have hstart : lineStart path = '\n' :: lead path := by
      cases path with
      | nil => exact absurd rfl hpath
      | cons i path => rfl
    have hline : Unbroken (lead path ++ x.phrase n) :=
      (unbroken_lead path).append (unbroken_phrase htext n)
    rw [outline, lines, hstart, List.append_assoc, List.cons_append,
      List.splitOn_append_cons_self_of_not_mem hfirst, ← List.append_assoc, ih hline hpaths htexts]

/-- Cut at its line feeds, an outline is the lines of its nodes. -/
lemma splitOn_steps (h : ∀ node ∈ e.nodes, Unbroken node.2.shownText) :
    e.steps.splitOn '\n' = lines 0 e.nodes := by
  have hnodes : e.nodes = ([], e) :: insideEach e.children [] 1 := nodesAt_eq_cons e []
  rw [hnodes] at h
  obtain ⟨hroot, hinside⟩ := List.forall_mem_cons.mp h
  have hpaths : ∀ node ∈ insideEach e.children [] 1, node.1 ≠ [] := by
    rintro ⟨p, x⟩ hp
    obtain ⟨i, q, rfl, -⟩ := (mem_insideEach_iff fun c _ => mem_nodesAt_iff c).mp hp
    exact List.cons_ne_nil (1 + i) q
  have hsteps : lineStart [] ++ e.steps = lineStart [] ++ (e.phrase 0 ++
      outline (captured [([], e)]).length (insideEach e.children [] 1)) := by
    rw [steps_eq_outline, hnodes, outline, List.append_assoc, Nat.zero_add]
  rw [List.append_cancel_left hsteps, hnodes, lines, Nat.zero_add]
  exact splitOn_append_outline (unbroken_phrase hroot 0) hpaths hinside

lemma getLast?_phrase (h : e.children? ≠ none) (n : ℕ) : (e.phrase n).getLast? = some ':' := by
  cases e with
  | repeated | capture => exact List.getLast?_concat
  | either | sequence | grouping | atomic | lookAhead | notAhead | lookBehind | notBehind => rfl
  | _ => exact absurd rfl h

lemma pathText_eq_intercalate (path : List ℕ) :
    pathText path = ['.'].intercalate (path.map Text.decimal) := by
  unfold pathText
  induction path.map Text.decimal using join.induct with
  | case1 => rfl
  | case2 number => simp [join]
  | case3 number numbers hne ih =>
    obtain ⟨next, numbers, rfl⟩ := List.exists_cons_of_ne_nil hne
    rw [join.eq_3 _ _ _ hne, ih, List.intercalate_cons_cons, List.append_assoc]

/-- What the captures in front of a capture leave is its place among all. -/
lemma getElem?_captured_of_node {nodes : List (List ℕ × Element)} {i : ℕ} {body : Element}
    (h : nodes[i]? = some (path, capture body)) :
    (captured nodes)[(captured (nodes.take i)).length]? = some body := by
  obtain ⟨hi, hget⟩ := List.getElem?_eq_some_iff.mp h
  have hsplit : nodes = nodes.take i ++ (path, capture body) :: nodes.drop (i + 1) := by
    rw [← hget, List.cons_getElem_drop_succ, List.take_append_drop]
  have hplace : (captured (nodes.take i ++ (path, capture body) :: nodes.drop (i + 1)))[
      (captured (nodes.take i)).length]? = some body := getElem?_captured
  rwa [← hsplit] at hplace

/-- An outline has one line for each node: for what is at each path, an element before what is
inside it and that before its later siblings. The first line is the phrase of the root. Every other
is indented by a tab for each number of its path and shows the path, and then the phrase of its
node. The phrase of an element of a kind that has children ends with a colon, and that of a capture
has the number that it has among the captures. -/
theorem steps_outline_nodes (h : ∀ node ∈ e.nodes, '\n' ∉ node.2.shownText) :
    (∀ path x, (path, x) ∈ e.nodes ↔ e.at? path = some x) ∧
      e.nodes.Pairwise (fun a b => a.1 < b.1) ∧
      (e.steps.splitOn '\n').length = e.nodes.length ∧
      (e.steps.splitOn '\n')[0]? = some (e.phrase 0) ∧
      (∀ i path (x : Element), e.nodes[i]? = some (path, x) → path ≠ [] →
        (e.steps.splitOn '\n')[i]? = some (List.replicate path.length '\t' ++
          ['.'].intercalate (path.map Text.decimal) ++ ") ".toList ++
          x.phrase (captured (e.nodes.take i)).length)) ∧
      (∀ (x : Element) n, x.children? ≠ none → (x.phrase n).getLast? = some ':') ∧
      (∀ i path body, e.nodes[i]? = some (path, capture body) →
        (captured e.nodes)[(captured (e.nodes.take i)).length]? = some body) ∧
      ∀ body n, (capture body).phrase n =
        "Match and capture #".toList ++ Text.decimal (n + 1) ++ [':'] := by
  rw [splitOn_steps h]
  refine ⟨fun path _ => mem_nodes_iff e path, pairwise_nodesAt e [], length_lines 0 e.nodes, ?_, ?_,
    fun _ n hx => getLast?_phrase hx n, fun _ _ _ => getElem?_captured_of_node, fun _ _ => rfl⟩
  · exact getElem?_lines (show e.nodes[0]? = some ([], e) from rfl)
  · intro i path x hnode hpath
    have hlead : lead path = List.replicate path.length '\t' ++
        ['.'].intercalate (path.map Text.decimal) ++ ") ".toList := by
      cases path with
      | nil => exact absurd rfl hpath
      | cons j path => rw [lead, pathText_eq_intercalate]
    rw [getElem?_lines hnode, hlead, Nat.zero_add]

/-- An element without children still has the line of its kind, and the second capture is inside a
repetition. -/
theorem steps_outline_nodes_repeated :
    let e := sequence [capture (text ['a']), either [], repeated (capture digit) (.oneOrMore none)]
    (∀ node ∈ e.nodes, '\n' ∉ node.2.shownText) ∧
      e.at? [3, 1] = some (capture digit) ∧ e.nodes[5]? = some ([3, 1], capture digit) ∧
      (e.steps.splitOn '\n')[5]? = some "\t\t3.1) Match and capture #2:".toList ∧
      e.steps = ("Match sequence:\n\t1) Match and capture #1:\n\t\t1.1) a" ++
        "\n\t2) Match any one of:\n\t3) Match one or more times:\n\t\t3.1) Match and capture #2:" ++
        "\n\t\t\t3.1.1) Digit").toList := by
  intro e
  have htexts : ∀ node ∈ e.nodes, '\n' ∉ node.2.shownText := by
    simp [e, nodes, nodesAt, inside, insideEach, shownText]
  obtain ⟨hat, -, -, -, hlines, -⟩ := steps_outline_nodes htexts
  have hnode : e.nodes[5]? = some ([3, 1], capture digit) := rfl
  have hline := hlines 5 [3, 1] (capture digit) hnode (by decide)
  refine ⟨htexts, (hat [3, 1] _).mp (List.mem_of_getElem? hnode), hnode, hline.trans ?_, ?_⟩
  · decide +kernel
  · decide +kernel

end PatternAlgebra.Element
