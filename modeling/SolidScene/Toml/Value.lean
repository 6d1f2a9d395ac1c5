/-!
# TOML documents

The values of a TOML document, and how a document grows: a key or a table header descends from a
table along a path and makes the tables that are missing. A table remembers where it comes from,
because that decides what may still be added to it: nothing is ever defined twice.
-/
namespace SolidScene.Toml

inductive Origin where
  /-- The root, a row of an array of tables, or a table with a header of its own. -/
  | header
  | implied
  | dotted
  /-- Written as a value; nothing can be added to it. -/
  | inline
deriving DecidableEq, Repr

/-- An item of a document. Floats and moments keep their literal text. -/
inductive Item where
  | text (s : String)
  | integer (n : Int)
  | boolean (b : Bool)
  | float (literal : String)
  | moment (literal : String)
  | array (items : List Item)
  | table (origin : Origin) (entries : List (String × Item))
  /-- An array of tables, row by row. -/
  | rows (tables : List (List (String × Item)))
deriving Repr

/-- The entries of a table, the latest first. -/
abbrev Entries := List (String × Item)

/-- The most keys on a path and the most values inside each other, plus one. -/
def nestingLimit : Nat := 80

def Entries.replace (key : String) (item : Item) (entries : Entries) : Entries :=
  entries.map fun e => if e.1 == key then (key, item) else e

/-- Change the table at the end of a path, with the tables on the way made as needed. Dotted keys
may not lead into a table that has a header of its own; no path leads into a value. The change sees
where the table comes from. -/
def descend (dotted : Bool) (change : Origin → Entries → Option Entries) :
    List String → Origin → Entries → Option Entries
  | [], origin, entries => change origin entries
  | key :: path, _, entries =>
    match entries.lookup key with
    | none => do
      let origin : Origin := if dotted then .dotted else .implied
      return (key, .table origin (← descend dotted change path origin [])) :: entries
    | some (.table origin inner) =>
      if origin == .inline || (dotted && origin == .header) then none
      else do
        return entries.replace key (.table origin (← descend dotted change path origin inner))
    | some (.rows tables) =>
      match tables.getLast? with
      | none => none
      | some last => do
        let last ← descend dotted change path .header last
        return entries.replace key (.rows (tables.dropLast ++ [last]))
    | some _ => none

/-- Add an entry under a key that is still free. A dotted key has to end in a table of dotted keys,
a plain one in any other. -/
def addEntry (plain : Bool) (key : String) (item : Item) (origin : Origin) (entries : Entries) :
    Option Entries :=
  if (origin == .dotted) == plain || (entries.lookup key).isSome then none
  else some ((key, item) :: entries)

/-- Give a value to a key of a table. The path holds the keys before the last dot. -/
def assign (path : List String) (key : String) (item : Item) (origin : Origin)
    (entries : Entries) : Option Entries :=
  descend true (addEntry path.isEmpty key item) path origin entries

/-- Define a table by its header: a new one, or one that so far lay only on the path of other
headers. -/
def openTable (key : String) (_ : Origin) (entries : Entries) : Option Entries :=
  match entries.lookup key with
  | none => some ((key, .table .header []) :: entries)
  | some (.table .implied inner) => some (entries.replace key (.table .header inner))
  | some _ => none

/-- Add an empty row to an array of tables, which is made if there is nothing under the key. -/
def openRow (key : String) (_ : Origin) (entries : Entries) : Option Entries :=
  match entries.lookup key with
  | none => some ((key, .rows [[]]) :: entries)
  | some (.rows tables) => some (entries.replace key (.rows (tables ++ [[]])))
  | some _ => none

end SolidScene.Toml
