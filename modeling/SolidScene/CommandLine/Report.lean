import SolidScene.CommandLine.Device
import SolidScene.Text.Extending
import SolidScene.Text.Unprintable
import SolidScene.Warning

/-!
# Reports

What a run of the command line leaves behind: an exit code, standard output and standard error. An
error comes with the cause below it.
-/
namespace SolidScene.CommandLine

/-- What a run prints, and how it ends. -/
structure Report where
  code : UInt32
  stdout : String
  stderr : String
deriving DecidableEq, Repr

/-- How a run goes on: it is over, or a file is to be written. In that case the log is shown first,
and the report behind it depends on whether the writing succeeds. -/
inductive Outcome where
  | finished (report : Report)
  | stores (name text log : String) (written : Report) (failed : FileFault → Report)

/-- The word before a log entry on standard error. -/
def levelName : LogLevel → String
  | .warning => "warning"
  | .debug => "debug"

/-- The log on standard error. Debug entries are shown only if the run is verbose. -/
def shownLog (verbose : Bool) (log : List LogEntry) : String :=
  String.join ((log.filter fun e => verbose || e.level == .warning).map fun e =>
    levelName e.level ++ ": " ++ e.text ++ "\n")

/-- A character of a quoted file name. Quotes and backslashes are escaped, and whatever would not be
seen or would change its neighbour is written as its number. -/
def escapedInName (c : Char) : String :=
  match c with
  | '"' => "\\\""
  | '\\' => "\\\\"
  | '\n' => "\\n"
  | '\r' => "\\r"
  | '\t' => "\\t"
  | '\x00' => "\\0"
  | c =>
    if Text.isExtending c || Text.isUnprintable c then
      "\\u\x7b" ++ String.ofList (Nat.toDigits 16 c.toNat) ++ "\x7d"
    else String.singleton c

def quotedName (name : String) : String :=
  "\"" ++ String.join (name.toList.map escapedInName) ++ "\""

/-- An error with its cause below it. -/
def errorText (summary cause : String) : String :=
  "Error: " ++ summary ++ "\n\nCaused by:\n    " ++ cause ++ "\n"

namespace Report

def ok (stdout : String) : Report := ⟨0, stdout, ""⟩

def failed (summary cause : String) : Report := ⟨1, "", errorText summary cause⟩

/-- A report behind a log. -/
def behind (log : String) (r : Report) : Report := { r with stderr := log ++ r.stderr }

/-- A command line that is none. -/
def misused (usage : String) : Report := ⟨2, "", usage⟩

end Report

/-- The report of a run that writes a text onto a device. -/
def Device.receive (text : String) (written : Report) (failed : FileFault → Report) :
    Device → Report
  | null => written
  | endless => written
  | full => failed (.refused "No space left on device (os error 28)")
  | terminal => failed (.refused "No such device or address (os error 6)")
  | standardOutput => { written with stdout := text ++ written.stdout }
  | standardError => written.behind text

/-- Let an outcome write its file onto a disk, unless it goes to a device. -/
def Outcome.onDisk (disk : Disk) : Outcome → Disk × Report
  | finished report => (disk, report)
  | stores name text log written failed =>
    match Device.ofName? disk name with
    | some device => (disk, (device.receive text written failed).behind log)
    | none =>
      match disk.write name text with
      | .ok disk => (disk, written.behind log)
      | .error fault => (disk, (failed fault).behind log)

end SolidScene.CommandLine
