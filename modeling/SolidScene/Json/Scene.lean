import SolidScene.Json.Text
import SolidScene.Operand
import SolidScene.Scad.Node

/-!
# Scenes as JSON

The JSON form of operands and of statements. A value with several forms is an object with one
field, which names the form.
-/
namespace SolidScene

variable {α : Type} [Numeral α]

namespace Json

def ofNumber (x : α) : Json := .number (Numeral.json x)

def ofVec (v : Vec α) : Json := .array (v.toList.map ofNumber)

def ofText? : Option String → Json
  | some s => .string s
  | none => .null

/-- A value behind the name of its form. -/
def tagged (name : String) (value : Json) : Json := .object [(name, value)]

end Json

namespace Transform

mutual

def json : Transform α → Json
  | translate offset => .tagged "Translate" (.object [("vector", .ofVec offset)])
  | rotateAround axis angle =>
    .tagged "RotateAxisAngle" (.object [("axis", .ofVec axis), ("angle", .ofNumber angle)])
  | rotateXyz angles =>
    .tagged "RotateXyz" (.object
      [("x", .ofNumber angles.x), ("y", .ofNumber angles.y), ("z", .ofNumber angles.z)])
  | rotateYpr yaw pitch roll =>
    .tagged "RotateYpr" (.object
      [("yaw", .ofNumber yaw), ("pitch", .ofNumber pitch), ("roll", .ofNumber roll)])
  | rotateFromTo source target anyAxis =>
    .tagged "RotateFromTo" (.object
      [("from", .ofVec source), ("to", .ofVec target), ("ignore_ambiguity", .bool anyAxis)])
  | scaleUniform factor => .tagged "ScaleUniform" (.object [("factor", .ofNumber factor)])
  | scaleAxes factors => .tagged "ScaleAxes" (.object [("factors", .ofVec factors)])
  | scaleAlong axis factor =>
    .tagged "ScaleAxisFactor" (.object [("axis", .ofVec axis), ("factor", .ofNumber factor)])
  | chain steps => .tagged "Chained" (.array (jsons steps))

def jsons : List (Transform α) → List Json
  | [] => []
  | t :: ts => t.json :: jsons ts

end

end Transform

def Primitive.json : Primitive α → Json
  | cuboid size => .tagged "Cuboid" (.object [("size", .ofVec size)])
  | sphere radius => .tagged "Sphere" (.object [("radius", .ofNumber radius)])
  | frustum base cap baseRadius capRadius =>
    .tagged "Frustum" (.object [("base", .ofVec base), ("cap", .ofVec cap),
      ("base_radius", .ofNumber baseRadius), ("cap_radius", .ofNumber capRadius)])

namespace Solid

mutual

def json : Solid α → Json
  | primitive p => .tagged "Primitive" p.json
  | placed t s => .tagged "Transformed" (.object [("transform", t.json), ("object", s.json)])
  | combined kind parts =>
    .tagged "Csg" (.object [("kind", .string kind.text), ("children", .array (jsons parts))])

def jsons : List (Solid α) → List Json
  | [] => []
  | s :: rest => s.json :: jsons rest

end

end Solid

def Operand.json : Operand α → Json
  | vector v => .tagged "Vector" (.ofVec v)
  | transform t => .tagged "Transform" t.json
  | solid s => .tagged "Object" s.json

namespace Scad

mutual

def Value.json : Value α → Json
  | .number n => .tagged "Number" (.ofNumber n)
  | .text s => .tagged "Text" (.string s)
  | .list items => .tagged "List" (.array (Value.jsons items))

def Value.jsons : List (Value α) → List Json
  | [] => []
  | v :: vs => v.json :: Value.jsons vs

end

mutual

def Node.json : Node α → Json
  | ⟨name, parameters, keywords, children, comment⟩ =>
    .object
      [("id", .ofText? name), ("params", .array (parameters.map Value.json)),
        ("kw_params", .array (keywords.map fun k => .array [.string k.1, k.2.json])),
        ("children", .array (Node.jsons children)), ("comment", .ofText? comment)]

def Node.jsons : List (Node α) → List Json
  | [] => []
  | n :: ns => n.json :: Node.jsons ns

end

end Scad

end SolidScene
