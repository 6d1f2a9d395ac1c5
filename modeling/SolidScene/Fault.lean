import SolidScene.Scalar
import SolidScene.Operator
import SolidScene.Vector

/-!
# Faults

Why a scene cannot be built, composed, emitted or stored. A fault records its cause; the wording
is `Fault.message`.
-/
namespace SolidScene

/-- Why a statement of scene source is not well formed. -/
inductive StatementFault where
  | parametersWithoutName
  | keywordsWithoutName
  | emptyName
deriving DecidableEq, Repr

inductive FactorName where
  | only
  | along (axis : Axis)
deriving DecidableEq, Repr

/-- Why a file could not be used. -/
inductive FileFault where
  /-- No such file, or no directory to create it in. -/
  | missing
  | directory
  | notText
  /-- Any other reason, in the words of the system. -/
  | refused (reason : String)
deriving DecidableEq, Repr

/-- Why settings or a demo could not be had. -/
inductive SettingsFault where
  | malformed
  | unknownDemo (name : String)
deriving DecidableEq, Repr

/-- Everything that can go wrong with a scene. -/
inductive Fault (α : Type) where
  /-- The vector with this label is zero. -/
  | zeroVector (label : String)
  | statement (fault : StatementFault)
  | unsupported (op : Operator) (lhs rhs : OperandKind)
  | mismatch (expected found : OperandKind)
  | emptyList
  /-- The number has no form in scene source. -/
  | nonFinite (value : α)
  | singular (factor : FactorName)
  | settings (fault : SettingsFault)
  | file (fault : FileFault)
deriving Repr

def StatementFault.message : StatementFault → String
  | parametersWithoutName => "an empty node cannot have parameters"
  | keywordsWithoutName => "an empty node cannot have keyword parameters"
  | emptyName => "id must be a non-empty string"

def FactorName.message : FactorName → String
  | only => "scale factor is 0"
  | along axis => axis.name ++ " is 0"

def FileFault.message : FileFault → String
  | missing => "No such file or directory (os error 2)"
  | directory => "Is a directory (os error 21)"
  | notText => "stream did not contain valid UTF-8"
  | refused reason => reason

def SettingsFault.message : SettingsFault → String
  | malformed => "the file is not a valid configuration"
  | unknownDemo name => "unknown demo: " ++ name

def Fault.message {α : Type} [Numeral α] : Fault α → String
  | zeroVector label => label ++ " may not be zero-length"
  | statement fault => "invalid SCAD node: " ++ fault.message
  | unsupported op lhs rhs =>
    "unsupported operation: " ++ lhs.name ++ " " ++ op.symbol ++ " " ++ rhs.name
  | mismatch expected found => "expected " ++ expected.name ++ ", found " ++ found.name
  | emptyList => "value is an empty list"
  | nonFinite value => "value " ++ Numeral.text value ++ " cannot be represented in SCAD source"
  | singular factor => "transform is not invertible: " ++ factor.message
  | settings fault => "invalid configuration: " ++ fault.message
  | file fault => fault.message

/-- The vector, if it is not zero; the label names it in the fault. -/
def Vec.nonZero {α : Type} [Scalar α] (v : Vec α) (label : String) : Except (Fault α) (Vec α) :=
  if v.isZero then .error (.zeroVector label) else .ok v

end SolidScene
