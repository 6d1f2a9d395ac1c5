import SolidScene.CommandLine.Arguments
import SolidScene.Demo

/-!
# Invocations

What a command line asks for. The first argument that is no switch names the command; the switches
before it and those behind it are counted apart.
-/
namespace SolidScene.CommandLine

/-- How a demo is to be written. -/
structure RenderOptions where
  /-- The file to write; none for the standard output. -/
  output : Option String
  /-- The settings file to read in place of the usual one. -/
  config : Option String
  inline : Bool
  simplify : Bool
deriving DecidableEq, Repr

inductive Command where
  | render (demo : Demo) (options : RenderOptions)
  | tree (demo : Demo)
  | json (demo : Demo)
  | list
  | version
  | help
deriving DecidableEq, Repr

/-- A command, and whether the log is shown in full. -/
structure Invocation where
  command : Command
  verbose : Bool
deriving DecidableEq, Repr

/-- The switches that every command knows. -/
def commonSwitches : List Switch := [.verbose, .help]

/-- The switches of the command that writes a demo. -/
def renderSwitches : List Switch := [.output, .config, .inline, .simplify] ++ commonSwitches

def commandNames : List String := ["demo", "tree", "json", "list", "version", "help"]

/-- A command about a demo, which is its only operand. A request for help may come before it. -/
def Command.about? (a : Arguments) (command : Demo → Command) : Option Command :=
  match a.operands with
  | [] => if a.has .help then some .help else none
  | [name] => (Demo.ofName? name).map fun demo => if a.has .help then .help else command demo
  | _ => none

def Command.alone? (a : Arguments) (command : Command) : Option Command :=
  if !a.operands.isEmpty then none
  else if a.has .help then some .help
  else some command

/-- A command from its name and its arguments. -/
def Command.of? (name : String) (a : Arguments) : Option Command :=
  match name with
  | "demo" => about? a fun demo =>
    .render demo ⟨a.value? .output, a.value? .config, a.has .inline, a.has .simplify⟩
  | "tree" => about? a .tree
  | "json" => about? a .json
  | "list" => alone? a .list
  | "version" => alone? a .version
  | _ => none

/-- Help on all commands or on one. Whatever follows has to be a command, even behind a dash. -/
def Command.help? : List String → Option Command
  | [] => some .help
  | [name] => if commandNames.contains name then some .help else none
  | _ => none

/-- The invocation of a command line, if it is one. -/
def Invocation.ofArguments? (args : List String) : Option Invocation := do
  let isLeading (arg : String) : Bool := isSwitched arg && arg != "--"
  let leading ← arguments? commonSwitches (args.takeWhile isLeading)
  if !leading.isDistinct then none
  if leading.has .help then return ⟨.help, false⟩
  match args.dropWhile isLeading with
  | [] => none
  | "help" :: rest => return ⟨← Command.help? rest, false⟩
  | name :: rest =>
    let a ← arguments? (if name = "demo" then renderSwitches else commonSwitches) rest
    if !a.isDistinct then none
    return ⟨← Command.of? name a, leading.has .verbose || a.has .verbose⟩

end SolidScene.CommandLine
