/-!
# Operators and operand kinds

The three operators of a scene, and the kinds of value that they meet.
-/
namespace SolidScene

inductive Operator where
  | add
  | sub
  | mul
deriving DecidableEq, Repr

def Operator.symbol : Operator → String
  | add => "+"
  | sub => "-"
  | mul => "*"

inductive OperandKind where
  | vector
  | transform
  | solid
deriving DecidableEq, Repr

def OperandKind.name : OperandKind → String
  | vector => "vector"
  | transform => "transform"
  | solid => "object"

end SolidScene
