import SolidScene.Digits

/-!
# JSON text

JSON documents whose objects keep the order of their fields, and their text. The text is written
piece by piece onto what stands before it. A spacing says what stands between the pieces: nothing,
or one field or item a line and two spaces a level. Numbers come with their text.
-/
namespace SolidScene

inductive Json where
  | null
  | bool (b : Bool)
  /-- A number, by its text. -/
  | number (text : String)
  | string (s : String)
  | array (items : List Json)
  | object (fields : List (String × Json))
deriving Repr

namespace Json

/-- The form of a character inside a string: control characters, the double quote and the backslash
are escaped, everything else stands for itself. -/
def escaped (c : Char) : String :=
  match c with
  | '"' => "\\\""
  | '\\' => "\\\\"
  | '\n' => "\\n"
  | '\r' => "\\r"
  | '\t' => "\\t"
  | '\x08' => "\\b"
  | '\x0c' => "\\f"
  | c =>
    if c.toNat < 32 then "\\u00" ++ String.ofList (Digits.ofByte c.toNat)
    else String.singleton c

def quoted (s : String) : String := "\"" ++ String.join (s.toList.map escaped) ++ "\""

/-- The space between the pieces of a document. -/
structure Spacing where
  afterColon : String
  /-- Before a field or an item, and before the end of a container that holds any, by the level of
  nesting. -/
  lineStart : Nat → String

namespace Spacing

def compact : Spacing := ⟨"", fun _ => ""⟩

/-- One field or item a line. -/
def pretty : Spacing := ⟨" ", fun level => "\n" ++ String.ofList (List.replicate (2 * level) ' ')⟩

end Spacing

mutual

/-- Write a document behind `out`, at a level of nesting. -/
def write (s : Spacing) (level : Nat) (out : String) : Json → String
  | null => out ++ "null"
  | bool b => out ++ (if b then "true" else "false")
  | number text => out ++ text
  | string text => out ++ quoted text
  | array [] => out ++ "[]"
  | array items => writeItems s (level + 1) "" (out ++ "[") items ++ s.lineStart level ++ "]"
  | object [] => out ++ "\x7b\x7d"
  | object fields =>
    writeFields s (level + 1) "" (out ++ "\x7b") fields ++ s.lineStart level ++ "\x7d"

/-- Write items behind `out`, the first one behind `separator` and the others behind a comma. -/
def writeItems (s : Spacing) (level : Nat) (separator out : String) : List Json → String
  | [] => out
  | item :: items =>
    writeItems s level "," (item.write s level (out ++ separator ++ s.lineStart level)) items

/-- Write fields behind `out`, as `writeItems` does with items. -/
def writeFields (s : Spacing) (level : Nat) (separator out : String) :
    List (String × Json) → String
  | [] => out
  | (key, value) :: fields =>
    let start := out ++ separator ++ s.lineStart level ++ quoted key ++ ":" ++ s.afterColon
    writeFields s level "," (value.write s level start) fields

end

def compact (j : Json) : String := j.write .compact 0 ""

/-- The document with one field or item a line. -/
def pretty (j : Json) : String := j.write .pretty 0 ""

end Json

end SolidScene
