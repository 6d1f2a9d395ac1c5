/-!
# Arguments

The arguments of a command, told apart: switches, with the values of those that take one, and
operands. A switch is a word behind two dashes or a letter behind one; letters may share a dash. The
value of a switch is attached to it or is the next argument. Behind a lone `--` everything is an
operand. A request for help ends the arguments: what follows it is not looked at.
-/
namespace SolidScene.CommandLine

inductive Switch where
  | verbose
  | help
  | output
  | config
  | inline
  | simplify
deriving DecidableEq, Repr

namespace Switch

def word : Switch → String
  | verbose => "verbose"
  | help => "help"
  | output => "output"
  | config => "config"
  | inline => "inline"
  | simplify => "simplify"

def letter? : Switch → Option Char
  | verbose => some 'v'
  | help => some 'h'
  | output => some 'o'
  | config => some 'c'
  | inline => none
  | simplify => none

def takesValue : Switch → Bool
  | output => true
  | config => true
  | _ => false

end Switch

/-- Arguments in the order in which they were given. -/
structure Arguments where
  /-- Each switch with its value, if it takes one. -/
  switches : List (Switch × Option String)
  operands : List String
deriving DecidableEq, Repr

namespace Arguments

def has (a : Arguments) (s : Switch) : Bool := (a.switches.lookup s).isSome

def value? (a : Arguments) (s : Switch) : Option String := (a.switches.lookup s).join

def isDistinct (a : Arguments) : Bool := decide (a.switches.map Prod.fst).Nodup

/-- The arguments with switches put in front. -/
def withSwitches (switches : List (Switch × Option String)) (a : Arguments) : Arguments :=
  { a with switches := switches ++ a.switches }

def withOperand (operand : String) (a : Arguments) : Arguments :=
  { a with operands := operand :: a.operands }

end Arguments

/-- What an argument with a dash holds: its switches, and a last one whose value is the next
argument. -/
structure Switched where
  complete : List (Switch × Option String)
  awaiting : Option Switch

/-- A value that was attached to a switch or followed it. No value is empty. -/
def valued? (s : Switch) (value : List Char) : Option (Switch × Option String) :=
  if value.isEmpty then none else some (s, some (String.ofList value))

/-- Read a word behind two dashes, with the value behind its equals sign. -/
def word? (known : List Switch) (text : List Char) : Option Switched := do
  let s ← known.find? fun s => s.word.toList == text.takeWhile (· != '=')
  match text.dropWhile (· != '='), s.takesValue with
  | [], true => return ⟨[], some s⟩
  | [], false => return ⟨[(s, none)], none⟩
  | _ :: value, true => return ⟨[← valued? s value], none⟩
  | _, false => none

/-- Read letters behind one dash, up to one that asks for help. Whatever follows a letter that takes
a value is the value, which may have an equals sign before it. -/
def letters? (known : List Switch) : List Char → Option Switched
  | [] => some ⟨[], none⟩
  | c :: rest => do
    let s ← known.find? (·.letter? == some c)
    if s.takesValue then
      match rest with
      | [] => return ⟨[], some s⟩
      | '=' :: value => return ⟨[← valued? s value], none⟩
      | value => return ⟨[← valued? s value], none⟩
    else if s = .help then return ⟨[(s, none)], none⟩
    else
      let others ← letters? known rest
      return { others with complete := (s, none) :: others.complete }

/-- Whether an argument holds switches. A lone dash does not. -/
def isSwitched (argument : String) : Bool :=
  match argument.toList with
  | '-' :: _ :: _ => true
  | _ => false

def switched? (known : List Switch) (argument : String) : Option Switched :=
  match argument.toList with
  | '-' :: '-' :: word => word? known word
  | '-' :: letters => letters? known letters
  | _ => none

/-- Tell arguments apart up to a request for help, if each switch in them is known and has the value
that it takes. -/
def arguments? (known : List Switch) : List String → Option Arguments
  | [] => some ⟨[], []⟩
  | argument :: rest =>
    if argument = "--" then some ⟨[], rest⟩
    else if !isSwitched argument then (arguments? known rest).map (·.withOperand argument)
    else
      match switched? known argument, rest with
      | none, _ => none
      | some ⟨complete, none⟩, rest =>
        if (complete.lookup .help).isSome then some ⟨complete, []⟩
        else (arguments? known rest).map (·.withSwitches complete)
      | some ⟨_, some _⟩, [] => none
      | some ⟨complete, some s⟩, next :: rest => do
        if isSwitched next then none
        let found ← valued? s next.toList
        return (← arguments? known rest).withSwitches (complete ++ [found])

end SolidScene.CommandLine
