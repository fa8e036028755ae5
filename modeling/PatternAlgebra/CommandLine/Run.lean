import PatternAlgebra.CommandLine.Arguments
import PatternAlgebra.Highlight.Style
import PatternAlgebra.Matcher.Algebra
import PatternAlgebra.Matcher.Breakage
import PatternAlgebra.Matcher.Query
import PatternAlgebra.Search.Glob
import PatternAlgebra.Text.Lines

/-!
# Searching lines

The command line searches the lines of a file or of standard input. It prints the lines that
match, the lines with their matches replaced, or the unmatched segments of the lines. What it does
is a function of its arguments and its input.

Left out are the colours of a terminal, the log, and the wording of the help text and of usage errors,
for which one line stands here.
-/
namespace PatternAlgebra.CommandLine

inductive RunError where
  | invalidPattern (grammar : Text)
  | cannotOpen (path : Text)
  | cannotRead
  | brokenOff
  deriving DecidableEq, Repr

def RunError.message : RunError → Text
  | invalidPattern grammar => "invalid pattern ".toList ++ grammar.quote
  | cannotOpen path => "failed to open ".toList ++ path
  | cannotRead => "failed to read input".toList
  | brokenOff => "search broken off".toList

def RunError.exitCode : RunError → UInt8
  | brokenOff => 101
  | invalidPattern _ | cannotOpen _ | cannotRead => 1

structure Report where
  output : Text
  error : Option RunError := none
  deriving DecidableEq, Repr

namespace Arguments

def compile (grammar : Text) (matchCase : Bool) : Except RunError Matcher :=
  match Regex.compile grammar (.ofCase matchCase) with
  | .ok r => .ok (.regex r)
  | .error _ => .error (.invalidPattern grammar)

/-- The matcher of the main pattern. Only a regular expression can be invalid. -/
def mainMatcher (a : Arguments) : Except RunError Matcher :=
  match a.kind with
  | .regex => compile a.pattern a.matchCase
  | .word => .ok (Search.word a.pattern a.matchCase)
  | .startingWith => .ok (Search.startingWith a.pattern a.matchCase)
  | .endingWith => .ok (Search.endingWith a.pattern a.matchCase)
  | .literal => .ok (Search.literal a.pattern a.matchCase)
  | .glob => .ok (Search.glob a.pattern a.matchCase)
  | .subsequence => .ok (Search.subsequence a.pattern)

/-- The matcher for all patterns: the conjuncts come before the disjuncts. -/
def matcher (a : Arguments) : Except RunError Matcher := do
  let m ← a.mainMatcher
  let m ← a.conjuncts.foldlM (fun m g => return m.and (← compile g a.matchCase)) m
  let m ← a.disjuncts.foldlM (fun m g => return m.or (← compile g a.matchCase)) m
  return if a.invert then m.inverse else m

def lineOutput (a : Arguments) (m : Matcher) (line : Text) : Text :=
  match a.template with
  | some template => m.replaceMatches line template ++ ['\n']
  | none =>
    if a.split then
      (m.splitWith line (Selection.unmatchedOnly.withLimit a.maxCount)).flatMap (· ++ ['\n'])
    else if m.hasMatches line then
      let ranges := m.matchRangesWith line (Selection.deepMatches.withLimit a.maxCount)
      Highlighter.plain.render line ranges ++ ['\n']
    else []

/-- Whether a search in a line is broken off. -/
def lineBreaks (a : Arguments) (m : Matcher) (line : Text) : Bool :=
  match a.template with
  | some template => m.breaksOff line (.replace template)
  | none =>
    if a.split then m.breaksOff line (.split (Selection.unmatchedOnly.withLimit a.maxCount))
    else
      m.breaksOff line .hasMatches ||
        (m.hasMatches line &&
          m.breaksOff line (.matches (Selection.deepMatches.withLimit a.maxCount)))

/-- Prints line by line and stops at one that cannot be read, or in which a search is broken off. -/
def printLines (a : Arguments) (m : Matcher) : List (Option Text) → Report
  | [] => { output := [] }
  | none :: _ => { output := [], error := some .cannotRead }
  | some line :: lines =>
    if a.lineBreaks m line then { output := [], error := some .brokenOff }
    else
      let rest := a.printLines m lines
      { rest with output := a.lineOutput m line ++ rest.output }

/-- Runs a search, where `openFile` gives the bytes of a file. The patterns are compiled before
the input is opened. -/
def run (a : Arguments) (openFile : Text → Option (List UInt8)) (standardInput : List UInt8) :
    Report :=
  match a.matcher with
  | .error e => { output := [], error := some e }
  | .ok m =>
    match a.file with
    | none => a.printLines m (Text.linesOfBytes standardInput)
    | some path =>
      match openFile path with
      | none => { output := [], error := some (.cannotOpen path) }
      | some bytes => a.printLines m (Text.linesOfBytes bytes)

end Arguments

def versionLine : Text := "patterns 0.1.0\n".toList

/-- Stands for the help text and for the messages of usage errors, whose wording is left out: that
text describes every option, and these messages name the argument that is wrong. -/
def usageLine : Text :=
  "usage: patterns [-k KIND] [-cvs] [-r TEMPLATE] [-m N]".toList ++
    " [--and PATTERN] [--or PATTERN] PATTERN [FILE]\n".toList

/-- The end of a process: its exit code and what it wrote. -/
structure Exit where
  code : UInt8
  output : Text
  errorOutput : Text
  deriving DecidableEq, Repr

/-- Runs the program on a list of arguments. A usage error prints nothing on standard output. Of help
and of usage errors only the exit code and the stream that is written to are given, not the text. -/
def execute (arguments : List Text) (openFile : Text → Option (List UInt8))
    (standardInput : List UInt8) : Exit :=
  match readArguments arguments with
  | .error _ => ⟨2, [], usageLine⟩
  | .ok .version => ⟨0, versionLine, []⟩
  | .ok .help => ⟨0, usageLine, []⟩
  | .ok (.search a) =>
    let report := a.run openFile standardInput
    match report.error with
    | none => ⟨0, report.output, []⟩
    | some e => ⟨e.exitCode, report.output, "Error: ".toList ++ e.message ++ ['\n']⟩

end PatternAlgebra.CommandLine
