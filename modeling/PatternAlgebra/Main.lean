import PatternAlgebra.CommandLine.Run

/-!
# The program

Reads the arguments, standard input and the file that is to be searched, and writes what the
search reports.
-/
namespace PatternAlgebra.CommandLine

/-- The bytes of the file that the arguments name. -/
def readNamedFile (arguments : List Text) : IO (Option (List UInt8)) := do
  match readArguments arguments with
  | .ok (.search { file := some path, .. }) =>
    try
      return some (← IO.FS.readBinFile (String.ofList path)).toList
    catch _ =>
      return none
  | _ => return none

/-- Standard input, unless the arguments name a file or ask for no search. -/
def readStandardInput (arguments : List Text) : IO (List UInt8) := do
  match readArguments arguments with
  | .ok (.search { file := none, .. }) =>
    return (← (← IO.getStdin).readBinToEnd).toList
  | _ => return []

/-- Runs the program and returns its exit code. -/
def runProgram (arguments : List Text) : IO UInt32 := do
  let file ← readNamedFile arguments
  let standardInput ← readStandardInput arguments
  let exit := execute arguments (fun _ => file) standardInput
  IO.print (String.ofList exit.output)
  IO.eprint (String.ofList exit.errorOutput)
  return exit.code.toUInt32

end PatternAlgebra.CommandLine

def main (args : List String) : IO UInt32 :=
  PatternAlgebra.CommandLine.runProgram (args.map String.toList)
