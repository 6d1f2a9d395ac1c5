import SolidScene.Proofs.Scad.Token
import SolidScene.Scad.Layout

/-!
# Reading statements

What scene source says, apart from its layout: a list of calls, each with its arguments and the
calls that it governs. The reader follows the grammar of statements. The empty statement says
nothing, a block without a name says what the statements in it say, and a call governs the one
statement behind it. Depth of nesting is bounded by fuel, of which `program?` gives more than any
source uses up.
-/
namespace SolidScene.Scad

/-- A value as it is read. A number is known by its text. -/
inductive Datum where
  | number (text : String)
  | text (s : String)
  | list (items : List Datum)
deriving Repr

/-- A call as it is read. An argument without a key is positional. -/
inductive Statement where
  | call (name : String) (arguments : List (Option String × Datum)) (governed : List Statement)
deriving Repr

/-- A word that can stand as a name or a key. -/
def isName (s : String) : Bool := !s.toList.isEmpty && s.toList.all isNameChar

/-- A word that can stand as a number. -/
def isNumeral (s : String) : Bool := !s.toList.isEmpty && s.toList.all isNumeralChar

/-- Entries between commas, at least one, up to a closing mark; at most so many are read. -/
def listed? {β : Type} (item? : List Token → Option (β × List Token)) (close : Char) :
    Nat → List Token → Option (List β × List Token)
  | 0, _ => none
  | n + 1, ts =>
    match item? ts with
    | some (b, .mark c :: rest) =>
      if c = ',' then (listed? item? close n rest).map fun r => (b :: r.1, r.2)
      else if c = close then some ([b], rest)
      else none
    | _ => none

/-- One value, and the tokens behind it. -/
def datum? : Nat → List Token → Option (Datum × List Token)
  | _ + 1, .atom s :: rest => if isNumeral s then some (.number s, rest) else none
  | _ + 1, .text s :: rest => some (.text s, rest)
  | fuel + 1, .mark '[' :: rest =>
    (listed? (datum? fuel) ']' rest.length rest).map fun r => (.list r.1, r.2)
  | _, _ => none

/-- One argument: a key with its value, or a value. -/
def argument? (fuel : Nat) : List Token → Option ((Option String × Datum) × List Token)
  | .atom key :: .mark '=' :: rest =>
    if isName key then (datum? fuel rest).map fun r => ((some key, r.1), r.2) else none
  | ts => (datum? fuel ts).map fun r => ((none, r.1), r.2)

/-- What stands in parentheses, the opening one already read. -/
def arguments? (fuel : Nat) : List Token → Option (List (Option String × Datum) × List Token)
  | .mark ')' :: rest => some ([], rest)
  | ts => listed? (argument? fuel) ')' ts.length ts

/-- Statements up to the end of a block or of the source; at most so many are read. -/
def sequence? (statement? : List Token → Option (List Statement × List Token)) :
    Nat → List Token → Option (List Statement × List Token)
  | 0, _ => none
  | _ + 1, [] => some ([], [])
  | _ + 1, .mark '\x7d' :: rest => some ([], .mark '\x7d' :: rest)
  | n + 1, ts => do
    let (first, rest) ← statement? ts
    let (others, rest) ← sequence? statement? n rest
    return (first ++ others, rest)

/-- One statement: the calls that it says, and the tokens behind it. -/
def statement? : Nat → List Token → Option (List Statement × List Token)
  | _ + 1, .mark ';' :: rest => some ([], rest)
  | fuel + 1, .mark '\x7b' :: rest =>
    match sequence? (statement? fuel) (rest.length + 1) rest with
    | some (said, .mark '\x7d' :: rest) => some (said, rest)
    | _ => none
  | fuel + 1, .atom name :: .mark '(' :: rest =>
    if isName name then do
      let (arguments, rest) ← arguments? fuel rest
      let (governed, rest) ← statement? fuel rest
      return ([.call name arguments governed], rest)
    else none
  | _, _ => none

/-- What a whole text says, if it is a list of statements. -/
def program? (source : String) : Option (List Statement) := do
  let ts ← tokens? source.toList
  match sequence? (statement? ts.length) (ts.length + 1) ts with
  | some (said, []) => some said
  | _ => none

end SolidScene.Scad
