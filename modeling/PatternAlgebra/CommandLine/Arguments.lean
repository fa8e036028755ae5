import PatternAlgebra.Text.Number

/-!
# Command-line arguments

Arguments are read from left to right. Short options combine, and an option that takes a value
finds it behind an equals sign, in the rest of its cluster, or in the next argument. Most options
may be given once. What does not begin with a hyphen, and everything behind `--`, is positional.
-/
namespace PatternAlgebra.CommandLine

inductive PatternKind where
  | regex | word | startingWith | endingWith | literal | glob | subsequence
  deriving DecidableEq, Repr

namespace PatternKind

def named : List (String × PatternKind) :=
  [("regex", regex), ("word", word), ("prefix", startingWith), ("suffix", endingWith),
   ("text", literal), ("wildcard", glob), ("filter", subsequence)]

def ofName? (name : Text) : Option PatternKind :=
  (named.find? (·.1.toList == name)).map (·.2)

end PatternKind

structure Arguments where
  pattern : Text
  file : Option Text := none
  kind : PatternKind := .regex
  matchCase : Bool := false
  invert : Bool := false
  /-- Regular expressions that must match too. -/
  conjuncts : List Text := []
  /-- Regular expressions that may match instead. -/
  disjuncts : List Text := []
  template : Option Text := none
  split : Bool := false
  maxCount : Option Nat := none
  deriving DecidableEq, Repr

inductive Request where
  | search (a : Arguments)
  | version
  | help
  deriving DecidableEq, Repr

inductive UsageError where
  | unknownOption
  | missingValue
  | unexpectedValue
  | invalidValue
  | repeatedOption
  | unexpectedArgument
  | missingPattern
  | conflict
  deriving DecidableEq, Repr

inductive Switch where
  | matchCase | invert | split | version | help
  deriving DecidableEq, Repr

inductive Setting where
  | kind | conjunct | disjunct | template | maxCount
  deriving DecidableEq, Repr

def longSwitches : List (String × Switch) :=
  [("match-case", .matchCase), ("invert", .invert), ("split", .split), ("version", .version),
   ("help", .help)]

def longSettings : List (String × Setting) :=
  [("kind", .kind), ("and", .conjunct), ("or", .disjunct), ("replace", .template),
   ("max-count", .maxCount)]

def shortSwitches : List (Char × Switch) :=
  [('c', .matchCase), ('v', .invert), ('s', .split), ('V', .version), ('h', .help)]

def shortSettings : List (Char × Setting) := [('k', .kind), ('r', .template), ('m', .maxCount)]

structure Draft where
  pattern : Option Text := none
  file : Option Text := none
  kind : Option PatternKind := none
  matchCase : Bool := false
  invert : Bool := false
  conjuncts : List Text := []
  disjuncts : List Text := []
  template : Option Text := none
  split : Bool := false
  maxCount : Option Nat := none
  deriving DecidableEq, Repr

/-- Reads a count of at most 64 bits, with an optional plus sign. -/
def readCount? (t : Text) : Option Nat :=
  let digits := match t with
    | '+' :: digits => digits
    | digits => digits
  match Text.readDecimal? digits with
  | some (n, []) => some n
  | _ => none

/-- Whether an argument can be the value of the option before it. -/
def isValue : Text → Bool
  | '-' :: _ :: _ => false
  | _ => true

namespace Draft

/-- Turns a switch on; the two that end the reading are answered with their request. -/
def switch (d : Draft) : Switch → Except UsageError (Draft ⊕ Request)
  | .matchCase =>
    if d.matchCase then .error .repeatedOption else .ok (.inl { d with matchCase := true })
  | .invert => if d.invert then .error .repeatedOption else .ok (.inl { d with invert := true })
  | .split => if d.split then .error .repeatedOption else .ok (.inl { d with split := true })
  | .version => .ok (.inr .version)
  | .help => .ok (.inr .help)

def give (d : Draft) (value : Text) : Setting → Except UsageError Draft
  | .kind =>
    match PatternKind.ofName? value with
    | none => .error .invalidValue
    | some k => if d.kind.isSome then .error .repeatedOption else .ok { d with kind := some k }
  | .conjunct => .ok { d with conjuncts := d.conjuncts ++ [value] }
  | .disjunct => .ok { d with disjuncts := d.disjuncts ++ [value] }
  | .template =>
    if d.template.isSome then .error .repeatedOption else .ok { d with template := some value }
  | .maxCount =>
    match readCount? value with
    | none => .error .invalidValue
    | some n =>
      if d.maxCount.isSome then .error .repeatedOption else .ok { d with maxCount := some n }

/-- Takes the next positional argument: the pattern, then the file, whose name is not empty. -/
def position (d : Draft) (value : Text) : Except UsageError Draft :=
  if d.pattern.isNone then .ok { d with pattern := some value }
  else if d.file.isSome then .error .unexpectedArgument
  else if value.isEmpty then .error .invalidValue
  else .ok { d with file := some value }

def finish (d : Draft) : Except UsageError Request :=
  match d.pattern with
  | none => .error .missingPattern
  | some pattern =>
    if d.template.isSome && d.split then .error .conflict
    else
      .ok (.search {
        pattern, file := d.file, kind := d.kind.getD .regex, matchCase := d.matchCase,
        invert := d.invert, conjuncts := d.conjuncts, disjuncts := d.disjuncts,
        template := d.template, split := d.split, maxCount := d.maxCount })

/-- What a cluster of short options leaves to do. -/
inductive Cluster where
  | done (d : Draft)
  | answered (r : Request)
  | awaiting (d : Draft) (s : Setting)

/-- Reads a cluster of short options, from behind its hyphen. -/
def cluster (d : Draft) : Text → Except UsageError Cluster
  | [] => .ok (.done d)
  | c :: rest =>
    match shortSwitches.lookup c, shortSettings.lookup c with
    | some s, _ =>
      match d.switch s with
      | .error e => .error e
      | .ok (.inr r) => .ok (.answered r)
      | .ok (.inl d) => cluster d rest
    | none, some s =>
      match rest with
      | [] => .ok (.awaiting d s)
      | '=' :: value => (d.give value s).map .done
      | value => (d.give value s).map .done
    | none, none => .error .unknownOption

def read (d : Draft) : List Text → Except UsageError Request
  | [] => d.finish
  | ['-', '-'] :: rest => do (← rest.foldlM position d).finish
  | ('-' :: '-' :: option) :: rest =>
    let name := option.takeWhile (· != '=')
    let value := (option.drop name.length).tail?
    match longSwitches.find? (·.1.toList == name), longSettings.find? (·.1.toList == name) with
    | some (_, s), _ =>
      match value, d.switch s with
      | some _, _ => .error .unexpectedValue
      | none, .error e => .error e
      | none, .ok (.inr r) => .ok r
      | none, .ok (.inl d) => read d rest
    | none, some (_, s) =>
      match value, rest with
      | some value, rest =>
        match d.give value s with
        | .error e => .error e
        | .ok d => read d rest
      | none, [] => .error .missingValue
      | none, next :: rest =>
        if isValue next then
          match d.give next s with
          | .error e => .error e
          | .ok d => read d rest
        else .error .missingValue
    | none, none => .error .unknownOption
  | ('-' :: c :: cs) :: rest =>
    match d.cluster (c :: cs), rest with
    | .error e, _ => .error e
    | .ok (.answered r), _ => .ok r
    | .ok (.done d), rest => read d rest
    | .ok (.awaiting _ _), [] => .error .missingValue
    | .ok (.awaiting d s), next :: rest =>
      if isValue next then
        match d.give next s with
        | .error e => .error e
        | .ok d => read d rest
      else .error .missingValue
  | value :: rest =>
    match d.position value with
    | .error e => .error e
    | .ok d => read d rest

end Draft

def readArguments (arguments : List Text) : Except UsageError Request :=
  Draft.read {} arguments

end PatternAlgebra.CommandLine
