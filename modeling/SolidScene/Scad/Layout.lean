import SolidScene.Scad.Node

/-!
# Layout

How a statement tree is laid out as scene source. A tree is first turned into lines, each child's
lines behind one more indent; a layout then joins the lines. The fault of a tree that cannot be
emitted is that of its first faulty node in pre-order, whatever the layout.
-/
namespace SolidScene.Scad

structure Layout where
  /-- Added once for each level of nesting. -/
  indent : String
  /-- Stands before every line. -/
  topIndent : String
  /-- Join all lines into one; comments are left out. -/
  inline : Bool
  /-- Write a node with a single child as `a() b();` and not as a block. -/
  simplify : Bool
  /-- Write comments as `//` lines. -/
  comments : Bool
deriving DecidableEq, Repr

namespace Layout

/-- Four spaces a level, one line a statement, comments shown. -/
def standard : Layout := ⟨"    ", "", false, false, true⟩

def oneLine : Layout := { standard with inline := true }

end Layout

namespace Node

variable {α : Type}

/-- The comment of a node, one `//` line for each of its lines. -/
def remarks (n : Node α) : List String :=
  match n.comment with
  | none => []
  | some comment => (comment.toList.splitOn '\n').map fun line => "// " ++ String.ofList line

/-- What follows the head of a node: the end of the statement, the start of a block, or nothing
before a single child in simplified form. -/
def opening (n : Node α) (simplify : Bool) (head : String) : String :=
  if n.children.isEmpty then ";"
  else if simplify && n.children.length == 1 then ""
  else if head.isEmpty then "\x7b" else " \x7b"

/-- The line that ends the block of a node, if the node opened one. -/
def closing (n : Node α) (simplify : Bool) : List String :=
  if n.children.isEmpty || (simplify && n.children.length == 1) then [] else ["\x7d"]

variable [Scalar α] [Numeral α]

mutual

/-- The lines of a tree: comment, head, children, end of block. Each line of a child takes the
indent of its parent. -/
def lines (indent top : String) (simplify comments : Bool) :
    Node α → Except (Fault α) (List String)
  | ⟨name, parameters, keywords, children, comment⟩ => do
    let n : Node α := ⟨name, parameters, keywords, children, comment⟩
    let remarks := if comments then n.remarks else []
    let head ← n.head
    let inner ← childLines indent simplify comments children
    return remarks.map (top ++ ·) ++ [top ++ (head ++ n.opening simplify head)] ++
      inner.map (top ++ indent ++ ·) ++ (n.closing simplify).map (top ++ ·)

/-- The lines of a list of children, one after the other, before they are indented. -/
def childLines (indent : String) (simplify comments : Bool) :
    List (Node α) → Except (Fault α) (List String)
  | [] => .ok []
  | n :: ns => do
    let first ← n.lines indent "" simplify comments
    let rest ← childLines indent simplify comments ns
    return first ++ rest

end

def code (n : Node α) (layout : Layout) : Except (Fault α) String :=
  if layout.inline then do
    return " ".intercalate (← n.lines "" "" layout.simplify false)
  else do
    return "\n".intercalate
      (← n.lines layout.indent layout.topIndent layout.simplify layout.comments)

end Node

end SolidScene.Scad
