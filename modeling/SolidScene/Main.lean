import SolidScene.CommandLine.Run

/-!
# The command line

Reads the files and variables that a run asks for, carries the run out, and prints its report.
-/
namespace SolidScene.CommandLine

def fileFault : IO.Error → FileFault
  | .noFileOrDirectory .. => .missing
  | e => .refused (toString e)

/-- The content of a file, if there is one. -/
def content? (name : String) : IO (Option Content) := do
  try
    let bytes ← IO.FS.readBinFile name
    return some ((String.fromUTF8? bytes).elim (.error .notText) .ok)
  catch
    | .noFileOrDirectory .. => return none
    | e => return some (.error (fileFault e))

/-- Let an outcome write its file. -/
def Outcome.perform : Outcome → IO Report
  | finished report => return report
  | stores name text log written failed => do
    IO.eprint log
    try
      IO.FS.writeFile name text
      return written
    catch e => return failed (fileFault e)

end SolidScene.CommandLine

open SolidScene CommandLine in
def main (args : List String) : IO UInt32 := do
  let contents ← (filesRead args).mapM fun name => return (name, ← content? name)
  let overrides ← Settings.variableNames.mapM fun name => return (name, ← IO.getEnv name)
  let report ←
    (run args (fun name => (contents.lookup name).join)
      (fun name => (overrides.lookup name).join)).perform
  IO.print report.stdout
  IO.eprint report.stderr
  return report.code
