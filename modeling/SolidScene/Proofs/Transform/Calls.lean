import SolidScene.Proofs.Matrix.Turn
import SolidScene.Transform.Matrix
import SolidScene.Transform.Source

/-!
# What calls of scene source do to space

The matrices that the calls `translate`, `scale` and `rotate` stand for in scene source, written
out by themselves, and nests of such calls around a statement. A nest stands for the product of the
matrices of its calls, outermost first. Comments do not matter.
-/
namespace SolidScene.Scad

def translation (v : Vec ℝ) : Mat ℝ :=
  ⟨⟨1, 0, 0, v.x⟩, ⟨0, 1, 0, v.y⟩, ⟨0, 0, 1, v.z⟩, ⟨0, 0, 0, 1⟩⟩

def diagonal (f : Vec ℝ) : Mat ℝ :=
  ⟨⟨f.x, 0, 0, 0⟩, ⟨0, f.y, 0, 0⟩, ⟨0, 0, f.z, 0⟩, ⟨0, 0, 0, 1⟩⟩

section Rotations

open Real

/-- Radians of an angle in degrees, of which a full turn has 360. -/
noncomputable def radians (degrees : ℝ) : ℝ := degrees / 360 * (π + π)

noncomputable def rotationX (a : ℝ) : Mat ℝ :=
  ⟨⟨1, 0, 0, 0⟩, ⟨0, cos (radians a), -sin (radians a), 0⟩,
    ⟨0, sin (radians a), cos (radians a), 0⟩, ⟨0, 0, 0, 1⟩⟩

noncomputable def rotationY (a : ℝ) : Mat ℝ :=
  ⟨⟨cos (radians a), 0, sin (radians a), 0⟩, ⟨0, 1, 0, 0⟩,
    ⟨-sin (radians a), 0, cos (radians a), 0⟩, ⟨0, 0, 0, 1⟩⟩

noncomputable def rotationZ (a : ℝ) : Mat ℝ :=
  ⟨⟨cos (radians a), -sin (radians a), 0, 0⟩, ⟨sin (radians a), cos (radians a), 0, 0⟩,
    ⟨0, 0, 1, 0⟩, ⟨0, 0, 0, 1⟩⟩

/-- The image of a point under the rotation around the direction of an axis: its part along the
axis stays, and the rest turns within its plane. -/
noncomputable def rotated (axis : Vec ℝ) (a : ℝ) (p : Vec ℝ) : Vec ℝ :=
  p * cos (radians a) + axis.normalize.cross p * sin (radians a) +
    axis.normalize * (axis.normalize.dot p * (1 - cos (radians a)))

/-- The rotation around an axis, column by column. -/
noncomputable def rotationAbout (axis : Vec ℝ) (a : ℝ) : Mat ℝ :=
  let x := rotated axis a ⟨1, 0, 0⟩
  let y := rotated axis a ⟨0, 1, 0⟩
  let z := rotated axis a ⟨0, 0, 1⟩
  ⟨⟨x.x, y.x, z.x, 0⟩, ⟨x.y, y.y, z.y, 0⟩, ⟨x.z, y.z, z.z, 0⟩, ⟨0, 0, 0, 1⟩⟩

end Rotations

namespace Node

/-- The matrix that a call stands for, if it is a call that moves its children. -/
noncomputable def matrix? (n : Node ℝ) : Option (Mat ℝ) :=
  match n.name, n.parameters, n.keywords with
  | some "translate", [.list [.number x, .number y, .number z]], [] => some (translation ⟨x, y, z⟩)
  | some "scale", [.list [.number x, .number y, .number z]], [] => some (diagonal ⟨x, y, z⟩)
  | some "rotate", [.list [.number x, .number y, .number z]], [] =>
    some (rotationZ z * rotationY y * rotationX x)
  | some "rotate", [], [("a", .number a), ("v", .list [.number x, .number y, .number z])] =>
    some (rotationAbout ⟨x, y, z⟩ a)
  | _, _, _ => none

/-- The statement is a nest of calls with single children around the target, and these are the
matrices of the calls, outermost first. -/
inductive Nest (target : Node ℝ) : Node ℝ → List (Mat ℝ) → Prop where
  | nothing : Nest target target []
  | call {n inner : Node ℝ} {m : Mat ℝ} {ms : List (Mat ℝ)} (hcall : n.matrix? = some m)
    (hchild : n.children = [inner]) (hinner : Nest target inner ms) : Nest target n (m :: ms)

theorem Nest.trans {target inner n : Node ℝ} {ks ms : List (Mat ℝ)} (hinner : Nest target inner ks)
    (h : Nest inner n ms) : Nest target n (ms ++ ks) := by
  induction h with
  | nothing => exact hinner
  | call hcall hchild _ ih => exact .call hcall hchild ih

/-- The statement is a nest of calls around the target that stands for the matrix. -/
def Draws (n target : Node ℝ) (m : Mat ℝ) : Prop :=
  ∃ ms, Nest target n ms ∧ Mat.product 1 ms = m

theorem draws_self (target : Node ℝ) : Draws target target 1 := ⟨[], .nothing, rfl⟩

/-- A call around a nest moves the target by what the nest does and then by its own matrix. -/
theorem Draws.call {n inner target : Node ℝ} {m k : Mat ℝ} (hinner : inner.Draws target k)
    (hcall : n.matrix? = some m) (hchild : n.children = [inner]) : n.Draws target (m * k) := by
  obtain ⟨ks, hks, rfl⟩ := hinner
  refine ⟨m :: ks, .call hcall hchild hks, ?_⟩
  rw [Mat.product_eq, Mat.product_eq, one_mul, one_mul, List.prod_cons]

theorem draws_call {target n : Node ℝ} {m : Mat ℝ} (hcall : n.matrix? = some m)
    (hchild : n.children = [target]) : n.Draws target m := by
  have h := (draws_self target).call hcall hchild
  rwa [mul_one] at h

theorem Draws.trans {n inner target : Node ℝ} {m k : Mat ℝ} (h : n.Draws inner m)
    (hinner : inner.Draws target k) : n.Draws target (m * k) := by
  obtain ⟨ms, hms, rfl⟩ := h
  obtain ⟨ks, hks, rfl⟩ := hinner
  refine ⟨ms ++ ks, hks.trans hms, ?_⟩
  rw [Mat.product_eq, Mat.product_eq, Mat.product_eq, one_mul, one_mul, one_mul, List.prod_append]

end Node

end SolidScene.Scad

namespace SolidScene.Transform

open Scad

theorem translation_eq (v : Vec ℝ) : translation v = Mat.displacement v := rfl

theorem radians_eq (degrees : ℝ) : radians degrees = Scalar.toRadians degrees := by
  change degrees / 360 * (Real.pi + Real.pi) = degrees * (Real.pi / 180)
  ring

theorem rotationAbout_eq (axis : Vec ℝ) (a : ℝ) : rotationAbout axis a = Mat.axisAngle axis a := by
  rw [Mat.axisAngle_eq, ← radians_eq]
  ext <;> simp [rotationAbout, rotated, Mat.turn, Vec.add_eq, Vec.mul_eq, Vec.cross, Vec.dot] <;>
    ring

end SolidScene.Transform
