import SolidScene.Outline
import SolidScene.Scad.Value

/-!
# Statement trees

A statement of scene source is a call `name(parameters, key = value)` with the statements that it
governs as children. A node without a name carries no parameters; it groups its children or, when
it has none, is the empty statement. Building does not check these rules: the head of a statement
does, and `ofParts` checks them at once.
-/
namespace SolidScene.Scad

/-- A statement with its children and an optional comment. -/
structure Node (α : Type) where
  name : Option String
  parameters : List (Value α)
  keywords : List (String × Value α)
  children : List (Node α)
  comment : Option String
deriving Repr

namespace Node

variable {α : Type}

/-- The rules on names: no parameters without a name, and no empty name. -/
def check (n : Node α) : Except StatementFault Unit :=
  match n.name with
  | none =>
    if !n.parameters.isEmpty then .error .parametersWithoutName
    else if !n.keywords.isEmpty then .error .keywordsWithoutName
    else .ok ()
  | some name => if name = "" then .error .emptyName else .ok ()

def ofParts (name : Option String) (parameters : List (Value α))
    (keywords : List (String × Value α)) (children : List (Node α)) :
    Except (Fault α) (Node α) :=
  let n : Node α := ⟨name, parameters, keywords, children, none⟩
  match n.check with
  | .ok () => .ok n
  | .error fault => .error (.statement fault)

def call (name : String) : Node α := ⟨some name, [], [], [], none⟩

/-- The empty statement. -/
def empty : Node α := ⟨none, [], [], [], none⟩

def group (children : List (Node α)) : Node α := { empty with children }

def param (n : Node α) (v : Value α) : Node α := { n with parameters := n.parameters ++ [v] }

def keyword (n : Node α) (key : String) (v : Value α) : Node α :=
  { n with keywords := n.keywords ++ [(key, v)] }

def adopt (n : Node α) (children : List (Node α)) : Node α :=
  { n with children := n.children ++ children }

def child (n : Node α) (c : Node α) : Node α := n.adopt [c]

/-- Append a target as a child, if there is one. -/
def onto (n : Node α) (target : Option (Node α)) : Node α := n.adopt target.toList

def isEmpty (n : Node α) : Bool := n.name.isNone && n.children.isEmpty

/-- Put another comment, or none, in place of the comment. -/
def replaceComment (n : Node α) (comment : Option String) : Node α := { n with comment }

mutual

def clearComments : Node α → Node α
  | ⟨name, parameters, keywords, children, _⟩ =>
    ⟨name, parameters, keywords, clearAll children, none⟩

def clearAll : List (Node α) → List (Node α)
  | [] => []
  | n :: ns => n.clearComments :: clearAll ns

end

/-- Remove the comment of a node, and with `recursive` those below it. -/
def clearComment (n : Node α) (recursive : Bool) : Node α :=
  if recursive then n.clearComments else n.replaceComment none

/-- Put text before and after the comment, with a separator between those of the three that are
there. -/
def annotate (n : Node α) (before after : Option String) (separator : String) : Node α :=
  let parts := before.toList ++ n.comment.toList ++ after.toList
  n.replaceComment (if parts.isEmpty then none else some (separator.intercalate parts))

def commented (n : Node α) (line : String) : Node α := n.annotate (some line) none "\n"

mutual

/-- Equality as far as the numbers can be told apart. Comments and the order of keywords count. -/
def beq [BEq α] : Node α → Node α → Bool
  | ⟨name, ps, ks, cs, comment⟩, ⟨name', ps', ks', cs', comment'⟩ =>
    name == name' && ps == ps' && ks == ks' && beqAll cs cs' && comment == comment'

def beqAll [BEq α] : List (Node α) → List (Node α) → Bool
  | [], [] => true
  | n :: ns, m :: ms => n.beq m && beqAll ns ms
  | _, _ => false

end

instance [BEq α] : BEq (Node α) := ⟨beq⟩

variable [Scalar α] [Numeral α]

/-- Source texts of keyword parameters, or the fault of the first one that has none. -/
def keywordSources : List (String × Value α) → Except (Fault α) (List String)
  | [] => .ok []
  | (key, v) :: rest => do
    let first ← v.source
    let texts ← keywordSources rest
    return (key ++ " = " ++ first) :: texts

/-- The statement without its children and its end, such as `cylinder(4, r = 0.5)`. Nothing for a
node without a name. -/
def head (n : Node α) : Except (Fault α) String := do
  match n.check with
  | .error fault => throw (.statement fault)
  | .ok () =>
    match n.name with
    | none => return ""
    | some name =>
      let parameters ← Value.sources n.parameters
      let keywords ← keywordSources n.keywords
      return name ++ "(" ++ ", ".intercalate (parameters ++ keywords) ++ ")"

mutual

/-- The tree of heads. Children are looked at before their parent, so the fault is that of the
first node in post-order that has one. -/
def outline : Node α → Except (Fault α) Outline
  | ⟨name, parameters, keywords, children, comment⟩ => do
    let below ← outlines children
    let label ← head ⟨name, parameters, keywords, children, comment⟩
    return .node label below

def outlines : List (Node α) → Except (Fault α) (List Outline)
  | [] => .ok []
  | n :: ns => do
    let first ← n.outline
    let rest ← outlines ns
    return first :: rest

end

end Node

end SolidScene.Scad
