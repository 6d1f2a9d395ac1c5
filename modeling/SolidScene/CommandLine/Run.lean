import SolidScene.CommandLine.Invocation
import SolidScene.CommandLine.Report
import SolidScene.Export
import SolidScene.Json.Scene
import SolidScene.Settings.Override
import SolidScene.Solid.Description

/-!
# Runs of the command line

What each command does, as a function of the files and the environment. A demo is written under the
settings of a file that is named on the command line, or else of the working directory; its own
resolution and the switches come last.
-/
namespace SolidScene.CommandLine

/-! ## Settings of a demo -/

/-- Settings under the switches, which can only turn a choice on. The resolution of the demo holds
where none is set. -/
def RenderOptions.adjust (o : RenderOptions) (demo : Demo) (s : Settings) : Settings :=
  { layout :=
      { s.layout with
        inline := s.layout.inline || o.inline
        simplify := s.layout.simplify || o.simplify }
    resolution := s.resolution.or demo.settings.resolution }

/-- The settings that a demo is written with. A file that is named on the command line stands
alone: neither the usual file nor the environment counts then. -/
def RenderOptions.settings {α : Type} (o : RenderOptions) (demo : Demo) (files : Files)
    (env : Environment) : Except (Fault α) Settings := do
  let s ← match o.config with
    | some name => Settings.ofFile files name
    | none => Settings.load files env
  return o.adjust demo s

/-! ## Commands -/

def usage : String :=
  "Compose solids and transforms and render them to OpenSCAD source\n\n" ++
  "Usage: scadkit [-v] demo NAME [-o FILE] [-c FILE] [--inline] [--simplify]\n" ++
  "       scadkit [-v] tree NAME\n" ++
  "       scadkit [-v] json NAME\n" ++
  "       scadkit [-v] list\n" ++
  "       scadkit [-v] version\n"

/-- The summary of the error when settings cannot be had. -/
def settingsSummary : Option String → String
  | some name => "Failed to load config file: " ++ quotedName name
  | none => "Failed to load configuration"

def renderingEntry (demo : Demo) : LogEntry := ⟨.debug, "rendering demo " ++ demo.name⟩

/-- A fault that stands for itself. -/
def faulty (log : String) (fault : Fault Float) : Outcome :=
  .finished ⟨1, "", log ++ "Error: " ++ fault.message ++ "\n"⟩

/-- Write the scene of a demo onto the standard output. -/
def printedScene (scene : Solid Float) (settings : Settings) (log : String) : Outcome :=
  match scene.output settings with
  | .error fault => faulty log fault
  | .ok text => .finished ⟨0, text, log⟩

/-- Write the scene of a demo into a file. -/
def storedScene (demo : Demo) (scene : Solid Float) (settings : Settings) (name : String)
    (verbose : Bool) : Outcome :=
  let log := shownLog verbose [renderingEntry demo]
  let failed (cause : String) : Report := .failed ("Failed to write " ++ quotedName name) cause
  match scene.output settings with
  | .error fault => .finished ((failed fault.message).behind log)
  | .ok text =>
    let written : Report :=
      ⟨0, "Rendered " ++ demo.name ++ " -> " ++ name ++ "\n",
        shownLog verbose [Solid.writtenEntry text name]⟩
    .stores name text log written fun fault => failed fault.message

def render (demo : Demo) (o : RenderOptions) (verbose : Bool) (files : Files)
    (env : Environment) : Outcome :=
  match o.settings demo files env, demo.scene with
  | .error fault, _ =>
    .finished (.failed (settingsSummary o.config) (fault : Fault Float).message)
  | .ok _, .error fault => faulty (shownLog verbose [renderingEntry demo]) fault
  | .ok settings, .ok scene =>
    match o.output with
    | none => printedScene scene settings (shownLog verbose [renderingEntry demo])
    | some name => storedScene demo scene settings name verbose

/-- Print what is made of the scene of a demo. -/
def printed (demo : Demo) (show? : Solid Float → String) : Outcome :=
  match demo.scene with
  | .error fault => faulty "" fault
  | .ok scene => .finished (.ok (show? scene ++ "\n"))

/-- Text filled with spaces up to a width. -/
def padded (width : Nat) (text : String) : String :=
  text ++ String.ofList (List.replicate (width - text.length) ' ')

def listLine (demo : Demo) : String :=
  "  " ++ padded 12 demo.name ++ " " ++ demo.description ++ "\n"

def versionLine : String := "scadkit v0.1.0\n"

/-- Carry an invocation out. Only writing a demo looks at files and environment. -/
def Invocation.run (i : Invocation) (files : Files) (env : Environment) : Outcome :=
  match i.command with
  | .render demo options => render demo options i.verbose files env
  | .tree demo => printed demo fun s => s.outline.text
  | .json demo => printed demo fun s => s.json.pretty
  | .list => .finished (.ok (String.join (Demo.all.map listLine)))
  | .version => .finished (.ok versionLine)
  | .help => .finished (.ok usage)

def run (args : List String) (files : Files) (env : Environment) : Outcome :=
  match Invocation.ofArguments? args with
  | some invocation => invocation.run files env
  | none => .finished (.misused usage)

/-- Run a command line on a disk: the disk afterwards, and the report. -/
def runOn (disk : Disk) (args : List String) (env : Environment) : Disk × Report :=
  (run args (filesOn disk) env).onDisk disk

/-- The files that a run may read. -/
def filesRead (args : List String) : List String :=
  match Invocation.ofArguments? args with
  | some ⟨.render _ options, _⟩ => [options.config.getD Settings.fileName]
  | _ => []

end SolidScene.CommandLine
