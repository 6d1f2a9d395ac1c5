import SolidScene.Outline
import SolidScene.Phrase
import SolidScene.Transform.Basic

/-!
# Descriptions of transforms

A transform in words, for outlines and for comments in scene source. Components that do nothing are
left out of the description.
-/
namespace SolidScene.Transform

variable {α : Type} [Scalar α] [Numeral α]

def degreesText (angle : α) : String := Numeral.text angle ++ "°"

def xyzText (angles : Vec α) : String :=
  let parts := (Axis.all.filter (angles.get · != 0)).map fun axis =>
    degreesText (angles.get axis) ++ " around " ++ axis.letter
  if parts.isEmpty then "Rotate by 0° around X, Y, and Z" else "Rotate by " ++ Phrase.series parts

def yprText (yaw pitch roll : α) : String :=
  let parts := ([(yaw, "yaw"), (pitch, "pitch"), (roll, "roll")].filter (·.1 != 0)).map fun part =>
    part.2 ++ " " ++ degreesText part.1
  if parts.isEmpty then "Yaw, pitch, and roll by 0°"
  else Phrase.capitalized (", ".intercalate parts)

def fromToText (source target : Vec α) : String :=
  "Rotate from " ++ source.text ++ " to " ++ target.text

def scaleText (factors : Vec α) : String :=
  let parts := (Axis.all.filter (factors.get · != 1)).map fun axis =>
    Numeral.text (factors.get axis) ++ " along " ++ axis.letter
  if parts.isEmpty then "Scale by 1 along X, Y, and Z" else "Scale by " ++ Phrase.series parts

/-- A transform in words. Of a chain, the number of its steps. -/
def text : Transform α → String
  | translate offset => "Translate by " ++ offset.text
  | rotateAround axis angle => "Rotate by " ++ degreesText angle ++ " around " ++ axis.text
  | rotateXyz angles => xyzText angles
  | rotateYpr yaw pitch roll => yprText yaw pitch roll
  | rotateFromTo source target _ => fromToText source target
  | scaleUniform factor => "Uniform scale by " ++ Numeral.text factor
  | scaleAxes factors => scaleText factors
  | scaleAlong axis factor => "Scale along " ++ axis.text ++ " by " ++ Numeral.text factor
  | chain steps =>
    "Chained transform (" ++ Nat.repr steps.length ++
      (if steps.length == 1 then " transform)" else " transforms)")

mutual

/-- The tree of a transform: a chain with its steps below it. -/
def outline : Transform α → Outline
  | chain steps => .node (chain steps).text (outlines steps)
  | t => .leaf t.text

def outlines : List (Transform α) → List Outline
  | [] => []
  | t :: ts => t.outline :: outlines ts

end

end SolidScene.Transform
