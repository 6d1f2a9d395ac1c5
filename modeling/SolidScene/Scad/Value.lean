import SolidScene.Fault

/-!
# Parameter values

The values that a statement of scene source takes, and their source text.
-/
namespace SolidScene.Scad

inductive Value (α : Type) where
  | number (n : α)
  | text (s : String)
  | list (items : List (Value α))
deriving Repr

/-- The two-character escapes of quoted text, in the order in which they are applied. The backslash
comes first, so that no escape is escaped again. -/
def escapes : List (Char × Char) :=
  [('\\', '\\'), ('"', '"'), ('\n', 'n'), ('\r', 'r'), ('\t', 't')]

/-- Put a backslash and `letter` in place of every `c`. -/
def substitute (c letter : Char) (s : List Char) : List Char :=
  s.flatMap fun d => if d = c then ['\\', letter] else [d]

/-- The inside of quoted text: each escape is substituted through the whole of it in turn. -/
def escape (s : List Char) : List Char := escapes.foldl (fun t e => substitute e.1 e.2 t) s

def quoted (s : String) : String := "\"" ++ String.ofList (escape s.toList) ++ "\""

namespace Value

variable {α : Type}

def ofVec (v : Vec α) : Value α := .list (v.toList.map .number)

mutual

/-- Source text of a value. A list may not be empty and a number must be finite; a zero of either
sign is written `0`. -/
def source [Scalar α] [Numeral α] : Value α → Except (Fault α) String
  | number n =>
    if !Numeral.isFinite n then .error (.nonFinite n)
    else if n == 0 then .ok "0"
    else .ok (Numeral.text n)
  | text s => .ok (quoted s)
  | list [] => .error .emptyList
  | list (item :: items) => do
    let texts ← sources (item :: items)
    return "[" ++ ", ".intercalate texts ++ "]"

/-- Source texts of values, or the fault of the first one that has none. -/
def sources [Scalar α] [Numeral α] : List (Value α) → Except (Fault α) (List String)
  | [] => .ok []
  | item :: items => do
    let first ← item.source
    let rest ← sources items
    return first :: rest

end

mutual

/-- Equality as far as the numbers can be told apart. -/
def beq [BEq α] : Value α → Value α → Bool
  | number m, number n => m == n
  | text s, text t => s == t
  | list xs, list ys => beqAll xs ys
  | _, _ => false

def beqAll [BEq α] : List (Value α) → List (Value α) → Bool
  | [], [] => true
  | x :: xs, y :: ys => x.beq y && beqAll xs ys
  | _, _ => false

end

instance [BEq α] : BEq (Value α) := ⟨beq⟩

end Value

end SolidScene.Scad
