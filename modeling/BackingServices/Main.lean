import BackingServices.CommandLine.Run
import Std.Time

/-!
# The program

Reads the environment and the clock, runs the program in it, and prints what is left of the run.  It
has no network of its own, so that no server is reached, and it runs no other programs.
-/

namespace BackingServices.CommandLine

/-- The values of the variables that are set. -/
def readVariables : IO (List (String × String)) :=
  consultedVariables.filterMapM fun name => do
    return (← IO.getEnv name).map fun value => (name, value)

/-- The text of a file, if it is there. -/
def readIfThere (path : String) : IO (Option (String × String)) :=
  try return some (path, ← IO.FS.readFile path) catch _ => return none

/-- The texts of the files that are there. -/
def readFiles (paths : List String) : IO (List (String × String)) := paths.filterMapM readIfThere

/-- The environment of some variables and files at a time. -/
def environmentOf (values files : List (String × String)) (now : Int) : Cluster.Environment :=
  ⟨fun name => values.lookup name, fun path => files.lookup path, now, .missing, .plain, none⟩

/-- The environment.  Files are read twice, since some of them name others. -/
def readEnvironment : IO Cluster.Environment := do
  let values ← readVariables
  let now := (← Std.Time.Timestamp.now).toSecondsSinceUnixEpoch.val
  let files ← readFiles (consultedFiles (environmentOf values [] now))
  let files ← readFiles (consultedFiles (environmentOf values files now))
  return environmentOf values files now

/-- A source of random bytes.  The most that the program draws are read at once. -/
def readRandom : IO RandomSource := do
  try
    let bytes ← IO.getRandomBytes (USize.ofNat randomBytes)
    return fun count => .ok (Vector.ofFn fun i : Fin count => (bytes.data[i.val]?).getD 0)
  catch e =>
    return fun _ => .error e.toString

end BackingServices.CommandLine

open BackingServices

/-- Runs the program in its environment. -/
def main (arguments : List String) : IO UInt32 := do
  let env ← CommandLine.readEnvironment
  let random ← CommandLine.readRandom
  let report := CommandLine.run arguments env random CommandLine.unreachable
  IO.print report.stdout
  IO.eprint report.stderr
  return UInt32.ofNat report.exit
