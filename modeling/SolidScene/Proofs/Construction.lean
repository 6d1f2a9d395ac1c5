import SolidScene.Operand
import SolidScene.Proofs.Solid.NormalForm
import SolidScene.Proofs.Transform.Constructed
import SolidScene.Scalar.Double

/-!
# Constructions

A construction starts from primitives and transforms that are no chains and makes further values
from those it has, by operators, inverses and methods of solids, one after another. An operation
that fails makes nothing. Every value of a construction is in normal form. Lists of parts and lists
of steps are not among the operations: what is given as a list is kept as it is.
-/
namespace SolidScene

variable {α : Type} [Scalar α]

namespace Solid

/-- What a method that places a solid makes of it. -/
inductive Method (s : Solid α) : Solid α → Prop where
  | translated (offset : Vec α) : Method s (s.translated offset)
  | rotatedAround {axis : Vec α} {angle : α} {r : Solid α} (h : s.rotatedAround axis angle = .ok r) :
    Method s r
  | rotatedXyz (angles : Vec α) : Method s (s.rotatedXyz angles)
  | rotatedYpr (yaw pitch roll : α) : Method s (s.rotatedYpr yaw pitch roll)
  | rotatedFromTo {source target : Vec α} {anyAxis : Bool} {c : Checked α (Solid α)}
    (h : s.rotatedFromTo source target anyAxis = .ok c) : Method s c.value
  | scaledUniform (factor : α) : Method s (s.scaledUniform factor)
  | scaledAxes (factors : Vec α) : Method s (s.scaledAxes factors).value
  | scaledAlong {axis : Vec α} {factor : α} {r : Solid α} (h : s.scaledAlong axis factor = .ok r) :
    Method s r
  | moved (d : Direction) (amount : α) : Method s (s.moved d amount)

/-- A method places the solid by a transform that is no chain. -/
theorem place_of_method {s r : Solid α} (h : Method s r) :
    ∃ t : Transform α, t.isChain = false ∧ r = t * s := by
  cases h with
  | translated offset => exact ⟨.translate offset, rfl, rfl⟩
  | rotatedAround h =>
    simp only [rotatedAround, bind_ok, pure_ok] at h
    obtain ⟨t, ht, rfl⟩ := h
    obtain ⟨-, rfl⟩ := Transform.around_ok.mp ht
    exact ⟨_, rfl, rfl⟩
  | rotatedXyz angles => exact ⟨.rotateXyz angles, rfl, rfl⟩
  | rotatedYpr yaw pitch roll => exact ⟨.rotateYpr yaw pitch roll, rfl, rfl⟩
  | rotatedFromTo h =>
    simp only [rotatedFromTo, bind_ok, pure_ok] at h
    obtain ⟨turn, hturn, rfl⟩ := h
    obtain ⟨-, -, hvalue⟩ := Transform.fromTo_ok hturn
    refine ⟨turn.value, ?_, rfl⟩
    rw [hvalue]
    rfl
  | scaledUniform factor => exact ⟨.scaleUniform factor, rfl, rfl⟩
  | scaledAxes factors => exact ⟨.scaleAxes factors, rfl, rfl⟩
  | scaledAlong h =>
    simp only [scaledAlong, bind_ok, pure_ok] at h
    obtain ⟨t, ht, rfl⟩ := h
    obtain ⟨-, rfl⟩ := Transform.along_ok.mp ht
    exact ⟨_, rfl, rfl⟩
  | moved d amount => exact ⟨d.by amount, by cases d <;> rfl, rfl⟩

end Solid

namespace Operand

def Normal : Operand α → Prop
  | vector _ => True
  | transform t => t.Flat
  | solid s => s.Normal

/-- What one operation makes of the values that are there. -/
inductive Operation (values : List (Operand α)) : Operand α → Prop where
  | vector (v : Vec α) : Operation values (vector v)
  | primitive (shape : Primitive α) : Operation values (solid (.primitive shape))
  | single {t : Transform α} (h : t.isChain = false) : Operation values (transform t)
  | identity : Operation values (transform .identity)
  | inverse {t u : Transform α} (ht : transform t ∈ values) (h : t.inverse = .ok u) :
    Operation values (transform u)
  | compose {t u : Transform α} (ht : transform t ∈ values) (hu : transform u ∈ values) :
    Operation values (transform (t * u))
  | add {a b : Solid α} (ha : solid a ∈ values) (hb : solid b ∈ values) :
    Operation values (solid (a + b))
  | mul {a b : Solid α} (ha : solid a ∈ values) (hb : solid b ∈ values) :
    Operation values (solid (a * b))
  | sub {a b : Solid α} (ha : solid a ∈ values) (hb : solid b ∈ values) :
    Operation values (solid (a - b))
  | place {t : Transform α} {s : Solid α} (ht : transform t ∈ values) (hs : solid s ∈ values) :
    Operation values (solid (t * s))
  | transformed {t : Transform α} {s : Solid α} (ht : transform t ∈ values)
    (hs : solid s ∈ values) : Operation values (solid (s.transformed t))
  | method {s r : Solid α} (hs : solid s ∈ values) (h : s.Method r) : Operation values (solid r)
  | apply {op : Operator} {lhs rhs result : Operand α} (hlhs : lhs ∈ values) (hrhs : rhs ∈ values)
    (h : apply op lhs rhs = .ok result) : Operation values result

/-- The values that a run of operations has made, the last one first. -/
inductive Construction : List (Operand α) → Prop where
  | nothing : Construction []
  | step {values : List (Operand α)} {v : Operand α} (h : Construction values)
    (hv : Operation values v) : Construction (v :: values)

theorem normal_apply {op : Operator} {lhs rhs result : Operand α} (hlhs : lhs.Normal)
    (hrhs : rhs.Normal) (h : apply op lhs rhs = .ok result) : result.Normal := by
  unfold apply at h
  split at h <;> cases h
  · exact Solid.normal_add hlhs hrhs
  · exact Solid.normal_sub hlhs hrhs
  · exact Solid.normal_mul hlhs hrhs
  · exact Transform.flat_mul hlhs hrhs
  · exact Solid.normal_place hlhs hrhs
  -- What is left are vectors, of which nothing is asked.
  all_goals trivial

/-- An operation on values in normal form makes one in normal form. -/
theorem normal_of_operation {values : List (Operand α)} (hvalues : ∀ v ∈ values, v.Normal)
    {v : Operand α} (h : Operation values v) : v.Normal := by
  cases h with
  | vector v => trivial
  | primitive shape => exact .primitive shape
  | single h => exact Transform.flat_of_single h
  | identity => exact nofun
  | inverse _ h => exact Transform.flat_inverse _ _ h
  | compose ht hu => exact Transform.flat_mul (hvalues _ ht) (hvalues _ hu)
  | add ha hb => exact Solid.normal_add (hvalues _ ha) (hvalues _ hb)
  | mul ha hb => exact Solid.normal_mul (hvalues _ ha) (hvalues _ hb)
  | sub ha hb => exact Solid.normal_sub (hvalues _ ha) (hvalues _ hb)
  | place ht hs => exact Solid.normal_place (hvalues _ ht) (hvalues _ hs)
  | transformed ht hs => exact Solid.normal_place (hvalues _ ht) (hvalues _ hs)
  | method hs h =>
    obtain ⟨t, ht, rfl⟩ := Solid.place_of_method h
    exact Solid.normal_place (Transform.flat_of_single ht) (hvalues _ hs)
  | apply hlhs hrhs h => exact normal_apply (hvalues _ hlhs) (hvalues _ hrhs) h

theorem normal_of_construction {values : List (Operand α)} (h : Construction values) :
    ∀ v ∈ values, v.Normal := by
  induction h with
  | nothing => exact nofun
  | step _ hv ih => exact List.forall_mem_cons.mpr ⟨normal_of_operation ih hv, ih⟩

/-- Every transform of a construction is flat, and every solid of it is in normal form throughout. -/
theorem construction_normal {values : List (Operand α)} (h : Construction values) :
    (∀ t, transform t ∈ values → t.Flat) ∧ ∀ s, solid s ∈ values → s.Normal :=
  ⟨fun _ ht => normal_of_construction h _ ht, fun _ hs => normal_of_construction h _ hs⟩

/-- A shell without another shell, turned forth and back. -/
def turnedShells : List (Operand Float) :=
  let ball : Solid Float := .primitive (.sphere 1)
  let shell := ball - ball
  let turn : Transform Float := .rotateXyz ⟨0, 0, 90⟩
  let back : Transform Float :=
    .rotateXyz ⟨-0, 0, 0⟩ * .rotateXyz ⟨0, -0, 0⟩ * .rotateXyz ⟨0, 0, -90⟩
  [solid (back * (shell - shell).transformed turn), solid ((shell - shell).transformed turn),
    solid (shell - shell), transform back, transform turn, solid shell, solid ball]

theorem construction_turnedShells : Construction turnedShells := by
  have hball : Construction [solid (.primitive (.sphere (1 : Float)))] :=
    .step .nothing (.primitive _)
  have hshell := hball.step (.sub (.head _) (.head _))
  have hturn := hshell.step (.single (t := .rotateXyz ⟨0, 0, 90⟩) rfl)
  have hback := hturn.step (.inverse (.head _) rfl)
  have hshells := hback.step (.sub (.tail _ (.tail _ (.head _))) (.tail _ (.tail _ (.head _))))
  have hturned := hshells.step (.transformed (.tail _ (.tail _ (.head _))) (.head _))
  exact hturned.step (.place (.tail _ (.tail _ (.head _))) (.head _))

theorem construction_normal_turnedShells :
    Construction turnedShells ∧ (∀ t, transform t ∈ turnedShells → t.Flat) ∧
      ∀ s, solid s ∈ turnedShells → s.Normal :=
  ⟨construction_turnedShells, construction_normal construction_turnedShells⟩

end Operand

end SolidScene
