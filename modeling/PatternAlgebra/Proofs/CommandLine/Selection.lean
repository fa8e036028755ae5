import PatternAlgebra.CommandLine.Run
import PatternAlgebra.Proofs.Highlight.Paint
import PatternAlgebra.Proofs.Matcher.Algebra
import PatternAlgebra.Proofs.Matcher.Breakage
import PatternAlgebra.Proofs.Text.Lines

/-! The lines that a search prints. They are those that the patterns select, in their order and as
they are, up to the first line in which a search is broken off. Only an expression with a group that
is referred to from its own inside breaks one off, and it may do so behind a match that has selected
the line. -/
namespace PatternAlgebra.CommandLine

open Matcher

namespace Arguments

/-- The patterns, each compiled for itself. -/
def patterns (a : Arguments) : List (Except RunError Matcher) :=
  a.mainMatcher :: (a.conjuncts ++ a.disjuncts).map (compile · a.matchCase)

/-- Whether a pattern has a match in a line. -/
def findsIn (line : Text) (pattern : Except RunError Matcher) : Bool :=
  pattern.toOption.any (·.hasMatches line)

/-- Whether the patterns select a line: the main one and all conjuncts have a match in it, or some
disjunct has. -/
def selects (a : Arguments) (line : Text) : Bool :=
  findsIn line a.mainMatcher && (a.conjuncts.map (compile · a.matchCase)).all (findsIn line) ||
    (a.disjuncts.map (compile · a.matchCase)).any (findsIn line)

/-- The selected ones of some lines, as they are printed. -/
def printed (a : Arguments) (lines : List Text) : Text :=
  (lines.filter a.selects).flatMap (· ++ ['\n'])

/-- The bytes that are searched. -/
def source (a : Arguments) (openFile : Text → Option (List UInt8)) (standardInput : List UInt8) :
    Option (List UInt8) :=
  match a.file with
  | none => some standardInput
  | some path => openFile path

/-- What a pattern compiles to: a regular expression, or nothing where the engine rejects it. -/
inductive Leaf : Matcher → Prop
  | regex (r : Regex) : Leaf (.regex r)
  | nothing : Leaf .nothing

variable {a : Arguments} {m : Matcher} {line : Text}

lemma Leaf.ne_conjunction_nil (h : Leaf m) : m ≠ conjunction [] := by
  rintro rfl
  cases h

lemma leaf_compile {grammar : Text} {matchCase : Bool} (h : compile grammar matchCase = .ok m) :
    Leaf m := by
  unfold compile at h
  split at h
  · cases h
    exact .regex _
  · contradiction

lemma leaf_compiled (grammar : Text) (flags : EngineFlags) : Leaf (Search.compiled grammar flags) := by
  unfold Search.compiled
  split
  · exact .regex _
  · exact .nothing

lemma leaf_mainMatcher (h : a.mainMatcher = .ok m) : Leaf m := by
  unfold mainMatcher at h
  split at h
  · exact leaf_compile h
  all_goals cases h
  · exact leaf_compiled _ _
  · exact leaf_compiled _ _
  · exact leaf_compiled _ _
  · exact leaf_compiled _ _
  · unfold Search.glob
    split
    · exact leaf_compiled _ _
    · exact .nothing
  · unfold Search.subsequence
    split_ifs
    · exact .nothing
    · exact leaf_compiled _ _

lemma leaf_of_mem_patterns (h : .ok m ∈ a.patterns) : Leaf m := by
  rcases List.mem_cons.mp h with hmain | hmem
  · exact leaf_mainMatcher hmain.symm
  · obtain ⟨g, -, hg⟩ := List.mem_map.mp hmem
    exact leaf_compile hg

/-! ### The matcher -/

lemma exists_map_ok {patterns : List (Except RunError Matcher)} (h : ∀ p ∈ patterns, ∃ m, p = .ok m) :
    ∃ ms : List Matcher, patterns = ms.map .ok := by
  induction patterns with
  | nil => exact ⟨[], rfl⟩
  | cons p patterns ih =>
    obtain ⟨⟨m, rfl⟩, hrest⟩ := List.forall_mem_cons.mp h
    obtain ⟨ms, rfl⟩ := ih hrest
    exact ⟨m :: ms, rfl⟩

lemma foldlM_compile (combine : Matcher → Matcher → Matcher) {grammars : List Text} {matchCase : Bool}
    {ms : List Matcher} (h : grammars.map (compile · matchCase) = ms.map .ok) (m : Matcher) :
    grammars.foldlM (fun m g => return combine m (← compile g matchCase)) m =
      .ok (ms.foldl combine m) := by
  induction grammars generalizing ms m with
  | nil =>
    obtain rfl : ms = [] := by simpa using h.symm
    rfl
  | cons g grammars ih =>
    obtain ⟨n, ns, rfl, hn, hns⟩ := List.map_eq_cons_iff.mp h.symm
    have hcompile : compile g matchCase = .ok n := hn.symm
    rw [List.foldlM_cons, hcompile]
    exact ih hns.symm (combine m n)

/-- Where all patterns compile, the matcher finds a match in the lines that they select, and no
search of a line is broken off in which none of them is. -/
lemma exists_matcher (hinvert : a.invert = false) (h : ∀ p ∈ a.patterns, ∃ m, p = .ok m) :
    ∃ m, a.matcher = .ok m ∧ (∀ line, m.hasMatches line = a.selects line) ∧
      ∀ line, (∀ c, .ok c ∈ a.patterns → Steady line c) → Steady line m := by
  obtain ⟨⟨first, hfirst⟩, hrest⟩ := List.forall_mem_cons.mp h
  rw [List.map_append, List.forall_mem_append] at hrest
  obtain ⟨cs, hcs⟩ := exists_map_ok hrest.1
  obtain ⟨ds, hds⟩ := exists_map_ok hrest.2
  have hpatterns : a.patterns = (first :: (cs ++ ds)).map .ok := by
    simp [patterns, hfirst, hcs, hds]
  have hmem {c : Matcher} (hc : c ∈ first :: (cs ++ ds)) : .ok c ∈ a.patterns :=
    hpatterns ▸ List.mem_map_of_mem hc
  have hproper : ∀ c ∈ first :: (cs ++ ds), c ≠ conjunction [] :=
    fun c hc => (leaf_of_mem_patterns (hmem hc)).ne_conjunction_nil
  refine ⟨ds.foldl Matcher.or (cs.foldl Matcher.and first), ?_, fun line => ?_, fun line hsteady => ?_⟩
  · have hand := foldlM_compile Matcher.and hcs first
    have hor := foldlM_compile Matcher.or hds (cs.foldl Matcher.and first)
    simp only [matcher, hfirst, hinvert, bind, Except.bind] at hand hor ⊢
    rw [hand]
    simp only [hor]
    rfl
  · have hnil : conjunction [] ∉ cs := fun hc => hproper _ (by simp [hc]) rfl
    rw [hasMatches_foldl_or, hasMatches_foldl_and (hproper first (by simp)) hnil, selects, hfirst,
      hcs, hds, List.all_map, List.any_map]
    rfl
  · have hall : ∀ c ∈ first :: (cs ++ ds), Steady line c := fun c hc => hsteady c (hmem hc)
    have hand : Steady line (cs.foldl Matcher.and first) :=
      .foldl .and (hall first (by simp)) fun c hc => hall c (by simp [hc])
    exact .foldl .or hand fun d hd => hall d (by simp [hd])

/-! ### The output -/

lemma lineOutput_eq (htemplate : a.template = none) (hsplit : a.split = false) (m : Matcher)
    (line : Text) : a.lineOutput m line = if m.hasMatches line then line ++ ['\n'] else [] := by
  simp [lineOutput, htemplate, hsplit, Highlighter.render_plain]

lemma flatMap_lineOutput (htemplate : a.template = none) (hsplit : a.split = false)
    (hm : ∀ line, m.hasMatches line = a.selects line) (lines : List Text) :
    lines.flatMap (a.lineOutput m) = a.printed lines := by
  induction lines with
  | nil => rfl
  | cons line lines ih =>
    rw [List.flatMap_cons, ih, lineOutput_eq htemplate hsplit, hm, printed, printed, List.filter_cons]
    split_ifs
    · rw [List.flatMap_cons]
    · rw [List.nil_append]

lemma printed_append (lines lines' : List Text) :
    a.printed (lines ++ lines') = a.printed lines ++ a.printed lines' := by
  rw [printed, List.filter_append, List.flatMap_append]
  rfl

lemma printed_eq_nil_iff {lines : List Text} :
    a.printed lines = [] ↔ ∀ line ∈ lines, a.selects line = false := by
  simp [printed, List.flatMap_eq_nil_iff]

/-- The lines of a text are gone through in turn, up to one in which a search is broken off. -/
lemma printLines_eq (a : Arguments) (m : Matcher) (lines : List Text) :
    a.printLines m (lines.map some) =
      { output := (lines.takeWhile (!a.lineBreaks m ·)).flatMap (a.lineOutput m)
        error := if lines.dropWhile (!a.lineBreaks m ·) = [] then none else some .brokenOff } := by
  induction lines with
  | nil => rfl
  | cons line lines ih =>
    rw [List.map_cons, printLines, ih]
    cases hbreak : a.lineBreaks m line <;> simp [hbreak]

lemma lineBreaks_of_steady (htemplate : a.template = none) (hsplit : a.split = false)
    (h : Steady line m) : a.lineBreaks m line = false := by
  simp [lineBreaks, htemplate, hsplit, breaksOff, h.hasBreaks, h.iterateBreaks]

lemma Leaf.steady (h : Leaf m) (hregex : ∀ r, m = .regex r → r.program.breaksAtLast line = false) :
    Steady line m := by
  cases h with
  | regex r => exact .regex (hregex r rfl)
  | nothing => exact .nothing line

lemma run_eq {openFile : Text → Option (List UInt8)} {standardInput bytes : List UInt8}
    (hm : a.matcher = .ok m) (hsource : a.source openFile standardInput = some bytes) :
    a.run openFile standardInput = a.printLines m (Text.linesOfBytes bytes) := by
  unfold source at hsource
  rw [run, hm]
  cases hfile : a.file with
  | none =>
    rw [hfile] at hsource
    rw [← Option.some.inj hsource]
  | some path =>
    rw [hfile] at hsource
    simp only [hsource]

end Arguments

open Arguments

/-- A search prints the lines of its input that the patterns select, as they are, up to the first
line in which a search is broken off. So it prints all that are selected just if none of them stands
there or behind, in particular where no regular expression breaks off in any line. -/
theorem execute_prints_selected {arguments : List Text} {a : Arguments}
    {openFile : Text → Option (List UInt8)} {standardInput bytes : List UInt8} {input : Text}
    (hread : readArguments arguments = .ok (.search a)) (hinvert : a.invert = false)
    (htemplate : a.template = none) (hsplit : a.split = false)
    (hpatterns : ∀ p ∈ a.patterns, ∃ m, p = .ok m)
    (hsource : a.source openFile standardInput = some bytes)
    (hinput : Text.ofBytes? bytes = some input) :
    let exit := execute arguments openFile standardInput
    ∃ m, a.matcher = .ok m ∧
      let searched := input.lines.takeWhile (!a.lineBreaks m ·)
      let left := input.lines.dropWhile (!a.lineBreaks m ·)
      exit.output = a.printed searched ∧ exit.code = (if left = [] then 0 else 101) ∧
        (exit.output = a.printed input.lines ↔ ∀ line ∈ left, a.selects line = false) ∧
        ((∀ line ∈ input.lines, ∀ r, .ok (.regex r) ∈ a.patterns →
            r.program.breaksAtLast line = false) →
          exit = ⟨0, a.printed input.lines, []⟩) := by
  intro exit
  obtain ⟨m, hm, hselects, hsteady⟩ := exists_matcher hinvert hpatterns
  refine ⟨m, hm, ?_⟩
  intro searched left
  have hreport : a.run openFile standardInput =
      { output := a.printed searched, error := if left = [] then none else some .brokenOff } := by
    rw [run_eq hm hsource, Text.linesOfBytes_eq hinput, printLines_eq,
      flatMap_lineOutput htemplate hsplit hselects]
  have hexit : exit = if left = [] then ⟨0, a.printed searched, []⟩
      else ⟨101, a.printed searched, "Error: ".toList ++ RunError.brokenOff.message ++ ['\n']⟩ := by
    simp only [exit, execute, hread, hreport]
    split_ifs <;> rfl
  have hprinted : a.printed input.lines = a.printed searched ++ a.printed left := by
    rw [← printed_append, List.takeWhile_append_dropWhile]
  have houtput : exit.output = a.printed searched := by
    rw [hexit]
    split_ifs <;> rfl
  refine ⟨houtput, ?_, ?_, fun hlast => ?_⟩
  · rw [hexit]
    split_ifs <;> rfl
  · rw [houtput, hprinted, List.self_eq_append_right, printed_eq_nil_iff]
  · have hnone : left = [] := by
      refine List.dropWhile_eq_nil_iff.mpr fun line hline => ?_
      have hleaf : ∀ c, .ok c ∈ a.patterns → Steady line c := fun c hc =>
        (leaf_of_mem_patterns hc).steady fun r hr => hlast line hline r (hr ▸ hc)
      rw [lineBreaks_of_steady htemplate hsplit (hsteady line hleaf), Bool.not_false]
    rw [hexit, if_pos hnone, hprinted, hnone]
    simp [printed]

/-- Of `a b`, `ab` and `xc` the first has `a` as a whole word and a `b`, and the last ends with a
`c`. That no matches are asked for hides no line. -/
theorem execute_prints_selected_words :
    let arguments := ["-kword", "-m0", "--and", "b", "--or", "c$", "a"].map String.toList
    let a : Arguments :=
      { pattern := ['a'], kind := .word, conjuncts := [['b']], disjuncts := [['c', '$']], maxCount := some 0 }
    let input : Text := "a b\nab\nxc".toList
    readArguments arguments = .ok (.search a) ∧ (∀ p ∈ a.patterns, ∃ m, p = .ok m) ∧
      Text.ofBytes? input.utf8 = some input ∧
      execute arguments (fun _ => none) input.utf8 = ⟨0, "a b\nxc\n".toList, []⟩ := by
  intro arguments a input
  have hread : readArguments arguments = .ok (.search a) := by decide +kernel
  have hcompiles : (a.patterns.all (·.isOk)) = true := by decide +kernel
  have hpatterns : ∀ p ∈ a.patterns, ∃ m, p = .ok m := by
    intro p hp
    have hok := List.all_eq_true.mp hcompiles p hp
    cases p with
    | ok m => exact ⟨m, rfl⟩
    | error e => cases hok
  have hinput : Text.ofBytes? input.utf8 = some input := Text.ofBytes?_eq_some_iff.mpr rfl
  have hsteady : (a.patterns.any fun p => p.toOption.any canBreak) = false := by decide +kernel
  have hprinted : a.printed input.lines = "a b\nxc\n".toList := by decide +kernel
  have hsource : a.source (fun _ => none) input.utf8 = some input.utf8 := rfl
  obtain ⟨m, -, -, -, -, hexit⟩ :=
    execute_prints_selected hread rfl rfl rfl hpatterns hsource hinput
  refine ⟨hread, hpatterns, hinput, hprinted ▸ hexit fun line _ r hr => ?_⟩
  exact r.breaksAtLast_eq_false (eq_false_of_ne_true (List.any_eq_false.mp hsteady _ hr)) line

/-- The group of `(\1|a)` is referred to from its own inside. In `xac` the `x` makes the line one
that is selected, but the search for further matches is broken off, so that nothing is printed. -/
theorem execute_prints_selected_broken_off :
    let arguments := ["x|(?:(\\1|a)c)+".toList]
    let a : Arguments := { pattern := "x|(?:(\\1|a)c)+".toList }
    let input : Text := "xac\n".toList
    let exit := execute arguments (fun _ => none) input.utf8
    readArguments arguments = .ok (.search a) ∧ (a.patterns.all (·.isOk)) = true ∧
      Text.ofBytes? input.utf8 = some input ∧ a.printed input.lines = input ∧
      exit.output = [] ∧ exit.code = 101 := by
  decide +kernel

end PatternAlgebra.CommandLine
