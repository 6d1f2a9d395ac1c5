import SolidScene.Disk
import SolidScene.Settings.Basic
import SolidScene.Toml.Document

/-!
# Settings files

Settings as a TOML document: the resolution, if there is one, and a table with the five choices of
the layout. Reading takes the default for what a file leaves out and passes over what it does not
know; a value of the wrong type makes the file malformed.
-/
namespace SolidScene.Settings

open Toml (Item Entries)
open Scad (Layout)

/-! ## Writing -/

def boolText (b : Bool) : String := if b then "true" else "false"

/-- The table of a layout. -/
def layoutText (l : Layout) : String :=
  "[emit]\n" ++
    "indent = " ++ Toml.quote l.indent ++ "\n" ++
    "top_indent = " ++ Toml.quote l.topIndent ++ "\n" ++
    "inline = " ++ boolText l.inline ++ "\n" ++
    "simplify = " ++ boolText l.simplify ++ "\n" ++
    "comments = " ++ boolText l.comments ++ "\n"

def text (s : Settings) : String :=
  (match s.resolution with
    | some n => "resolution = " ++ Nat.repr n.toNat ++ "\n\n"
    | none => "") ++ layoutText s.layout

/-! ## Reading -/

/-- An item read as text, or the default if there is no item. -/
def textOr (default : String) : Option Item → Option String
  | none => some default
  | some (.text s) => some s
  | some _ => none

/-- An item read as a Boolean, or the default if there is no item. -/
def boolOr (default : Bool) : Option Item → Option Bool
  | none => some default
  | some (.boolean b) => some b
  | some _ => none

/-- A layout from the items of its choices. -/
def layoutOf (indent topIndent inline simplify comments : Option Item) : Option Layout := do
  let d := Layout.standard
  return {
    indent := ← textOr d.indent indent
    topIndent := ← textOr d.topIndent topIndent
    inline := ← boolOr d.inline inline
    simplify := ← boolOr d.simplify simplify
    comments := ← boolOr d.comments comments }

/-- A layout is a table of its choices or a list of them in order. A moment counts as a table of
nothing known. -/
def layoutOfItem : Option Item → Option Layout
  | none => some Layout.standard
  | some (.moment _) => some Layout.standard
  | some (.table _ entries) =>
    layoutOf (entries.lookup "indent") (entries.lookup "top_indent") (entries.lookup "inline")
      (entries.lookup "simplify") (entries.lookup "comments")
  | some (.array items) => layoutOf items[0]? items[1]? items[2]? items[3]? items[4]?
  | some _ => none

/-- A resolution is an integer of 32 bits without sign. -/
def resolutionOfItem : Option Item → Option (Option UInt32)
  | none => some none
  | some (.integer n) =>
    if 0 ≤ n && n < UInt32.size then some (some (UInt32.ofNat n.toNat)) else none
  | some _ => none

def ofEntries? (entries : Entries) : Option Settings := do
  let layout ← layoutOfItem (entries.lookup "emit")
  let resolution ← resolutionOfItem (entries.lookup "resolution")
  return ⟨layout, resolution⟩

/-- The settings of a text, if it is a settings file. -/
def ofText? (text : String) : Option Settings := (Toml.document? text).bind ofEntries?

variable {α : Type}

def ofFile (files : Files) (name : String) : Except (Fault α) Settings :=
  match files.read name with
  | .error fault => .error (.file fault)
  | .ok text =>
    match ofText? text with
    | some s => .ok s
    | none => .error (.settings .malformed)

def save (s : Settings) (disk : Disk) (name : String) : Except (Fault α) Disk :=
  match disk.write name s.text with
  | .error fault => .error (.file fault)
  | .ok disk => .ok disk

end SolidScene.Settings
