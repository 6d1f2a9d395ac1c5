import SolidScene.Scalar.Double
import SolidScene.Settings.Basic
import SolidScene.Solid.Algebra

/-!
# Demo scenes

Four built-in scenes with the settings that they are meant to be written with.
-/
namespace SolidScene

inductive Demo where
  | csg
  | primitives
  | rotateYpr
  | scale
deriving DecidableEq, Repr

namespace Demo

def all : List Demo := [csg, primitives, rotateYpr, scale]

def name : Demo → String
  | csg => "csg"
  | primitives => "primitives"
  | rotateYpr => "rotate-ypr"
  | scale => "scale"

def description : Demo → String
  | csg => "Union, intersection, and difference of a cube and a sphere"
  | primitives => "A cuboid, a sphere, and a cylinder side by side"
  | rotateYpr => "A plank rotated by yaw, pitch, and roll"
  | scale => "A cube scaled along a skewed axis, the X axis, and uniformly"

def ofName? (name : String) : Option Demo := all.find? (·.name == name)

/-- The demo of a name, which has to be exact. -/
def ofName {α : Type} (name : String) : Except (Fault α) Demo :=
  match ofName? name with
  | some demo => .ok demo
  | none => .error (.settings (.unknownDemo name))

def settings : Demo → Settings
  | csg => Settings.standard.withResolution 60
  | primitives => Settings.standard.withResolution 24
  | rotateYpr => .standard
  | scale => .standard

/-- A cube around the origin and a sphere that rounds off its corners, combined in three ways. -/
def csgScene : Solid Float :=
  let size := 1.6
  let cube := (Solid.cube size).value.translated (Vec.repeated (-size / 2))
  let sphere := (Solid.sphere 1).value
  (cube + sphere).moved .right 0 + (cube * sphere).moved .right 2 + (cube - sphere).moved .right 4

def primitivesScene : Except (Fault Float) (Solid Float) := do
  let cuboid := (Solid.cuboid ⟨3, 2, 1⟩).value
  let sphere := (Solid.sphere 1).value
  let cylinder := (← Solid.frustumAlong (Vec.unit .z) 2 1 1).value
  return cuboid.moved .right 0 + sphere.moved .right 5 + cylinder.moved .right 10

def rotateYprScene : Solid Float :=
  (Solid.cuboid ⟨20, 5, 1⟩).value.rotatedYpr 45 (-10) (-20)

def scaleScene : Except (Fault Float) (Solid Float) := do
  let cube := (Solid.cube 20).value
  let skewed ← cube.scaledAlong ⟨3, 2, 1⟩ 2
  let alongX ← cube.scaledAlong ⟨3, 0, 0⟩ 2
  let uniform := cube.scaledUniform 2
  return skewed + alongX.moved .right 50 + uniform.moved .right 100

/-- The solid of a demo. None of its parts raises a warning. -/
def scene : Demo → Except (Fault Float) (Solid Float)
  | csg => .ok csgScene
  | primitives => primitivesScene
  | rotateYpr => .ok rotateYprScene
  | scale => scaleScene

end Demo

end SolidScene
