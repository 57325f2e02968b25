import GraphQuery.CommandLine.Run

/-!
# The command line program

Collects the files, the standard input and the environment that the arguments ask for, and runs
the command line on them.
-/

open GraphQuery
open GraphQuery.CommandLine

/-- The file at a path, if it can be read as text. -/
def readText? (path : String) : IO (List (String × String)) := do
  try
    return [(path, ← IO.FS.readFile path)]
  catch _ =>
    return []

/-- The value of an environment variable, if it is set to a text. -/
def readVariable? (name : String) : IO (List (String × String)) := do
  return ((← IO.getEnv name).map (name, ·)).toList

/-- The world that an invocation finds, if there is one. -/
def findWorld (inv? : Option Invocation) : IO World := do
  let named := inv?.toList.flatMap fun inv => inv.config.toList ++ inv.input.toList
  let files ← (dotenvPath :: named).mapM readText?
  let input ← if inv?.any (·.input.isNone) then (← IO.getStdin).readToEnd else pure ""
  let env ← [Settings.multilineVariable, Settings.maxProbesVariable,
    Settings.fallbackVariable].mapM readVariable?
  return ⟨files.flatten, input, env.flatten⟩

def main (args : List String) : IO UInt32 := do
  let world ← findWorld (readArguments args).toOption
  let ending := execute world args
  IO.print ending.output
  match ending with
  | .failed e => IO.eprintln ("Error: " ++ e.message)
  | .refused .usage => IO.eprintln "the arguments do not fit"
  | .stopped => IO.eprintln "the environment file sets a variable to a text with a null character"
  | _ => pure ()
  return UInt32.ofNat ending.code
