/-!
# Outlines

Labelled trees and their text: one line for each node, in pre-order, either as a line drawing of
the tree or with each level indented.
-/
namespace SolidScene

/-- A tree whose every node carries a label. -/
inductive Outline where
  | node (label : String) (children : List Outline)
deriving Repr

namespace Outline

def leaf (label : String) : Outline := node label []

def label : Outline → String
  | node label _ => label

def children : Outline → List Outline
  | node _ children => children

/-- The lines of a subtree behind the branch that leads to it: the first line takes `first`, the
lines below it take `rest`. -/
def behind (first rest : String) : List String → List String
  | [] => []
  | line :: lines => (first ++ line) :: lines.map (rest ++ ·)

mutual

/-- The drawing of a tree: `|-- ` and `'-- ` lead to a node, and `|   ` continues the branch of a
node that has siblings below it. -/
def drawing : Outline → List String
  | node label children => label :: drawings children

/-- The drawings of the children of a node, one below the other. -/
def drawings : List Outline → List String
  | [] => []
  | [last] => behind "'-- " "    " last.drawing
  | child :: next :: rest => behind "|-- " "|   " child.drawing ++ drawings (next :: rest)

end

mutual

/-- The lines of a tree in which each level adds one copy of `indent`. -/
def indented (indent : String) : Outline → List String
  | node label children => label :: indentedAll indent children

def indentedAll (indent : String) : List Outline → List String
  | [] => []
  | child :: rest => (child.indented indent).map (indent ++ ·) ++ indentedAll indent rest

end

/-- One line per node, each behind `top`: a drawing without an indent, indented text with one. -/
def lines (t : Outline) (indent : Option String) (top : String) : List String :=
  match indent with
  | none => t.drawing.map (top ++ ·)
  | some indent => (t.indented indent).map (top ++ ·)

def format (t : Outline) (indent : Option String) (top : String) : String :=
  "\n".intercalate (t.lines indent top)

def text (t : Outline) : String := t.format none ""

mutual

def beq : Outline → Outline → Bool
  | node l cs, node m ds => l == m && beqAll cs ds

def beqAll : List Outline → List Outline → Bool
  | [], [] => true
  | c :: cs, d :: ds => c.beq d && beqAll cs ds
  | _, _ => false

end

instance : BEq Outline := ⟨beq⟩

end Outline

end SolidScene
