import SolidScene.Proofs.Listwise
import SolidScene.Transform.Basic

/-!
# Transforms that can be constructed

Constructors refuse directions that are zero, so the transforms of a program are those that they
give, and chains of such. `singles` lists the transforms of a chain without its nesting, so that a
property of every one of them can be stated without another recursion.
-/
namespace SolidScene

namespace Transform

variable {α : Type}

mutual

/-- The transforms that a transform is made of, chains taken apart. -/
def singles : Transform α → List (Transform α)
  | chain steps => singlesOf steps
  | t => [t]

def singlesOf : List (Transform α) → List (Transform α)
  | [] => []
  | t :: ts => t.singles ++ singlesOf ts

end

theorem singlesOf_eq_flatMap (ts : List (Transform α)) : singlesOf ts = ts.flatMap singles :=
  eq_flatMap_of_cons rfl (fun _ _ => rfl) ts

theorem mem_singles_chain {s : Transform α} {ts : List (Transform α)} :
    s ∈ (chain ts).singles ↔ ∃ t ∈ ts, s ∈ t.singles := by
  rw [singles, singlesOf_eq_flatMap, List.mem_flatMap]

variable [Scalar α]

/-- A transform that some constructor gives, or a chain of such transforms. -/
inductive Constructed : Transform α → Prop where
  | translate (offset : Vec α) : Constructed (translate offset)
  | around {axis : Vec α} {angle : α} {t : Transform α} (h : around axis angle = .ok t) :
    Constructed t
  | rotateXyz (angles : Vec α) : Constructed (rotateXyz angles)
  | rotateYpr (yaw pitch roll : α) : Constructed (rotateYpr yaw pitch roll)
  | fromTo {source target : Vec α} {anyAxis : Bool} {c : Checked α (Transform α)}
    (h : fromTo source target anyAxis = .ok c) : Constructed c.value
  | scaleUniform (factor : α) : Constructed (scaleUniform factor)
  | scaled (factors : Vec α) : Constructed (scaled factors).value
  | along {axis : Vec α} {factor : α} {t : Transform α} (h : along axis factor = .ok t) :
    Constructed t
  | chain {steps : List (Transform α)} (h : ∀ t ∈ steps, Constructed t) :
    Constructed (chain steps)

theorem around_ok {axis : Vec α} {angle : α} {t : Transform α} :
    around axis angle = .ok t ↔ axis.isZero = false ∧ t = rotateAround axis angle := by
  unfold around Vec.nonZero
  cases axis.isZero <;> simp [eq_comm, Bind.bind, Except.bind, pure, Except.pure]

theorem along_ok {axis : Vec α} {factor : α} {t : Transform α} :
    along axis factor = .ok t ↔ axis.isZero = false ∧ t = scaleAlong axis factor := by
  unfold along Vec.nonZero
  cases axis.isZero <;> simp [eq_comm, Bind.bind, Except.bind, pure, Except.pure]

theorem fromTo_ok {source target : Vec α} {anyAxis : Bool} {c : Checked α (Transform α)}
    (h : fromTo source target anyAxis = .ok c) :
    source.isZero = false ∧ target.isZero = false ∧
      c.value = rotateFromTo source target anyAxis := by
  unfold fromTo Vec.nonZero at h
  cases hs : source.isZero <;> cases ht : target.isZero <;>
    simp [hs, ht, Bind.bind, Except.bind, pure, Except.pure] at h
  exact ⟨rfl, rfl, by rw [← h]⟩

theorem fromTo_eq_ok {source target : Vec α} (hsource : source.isZero = false)
    (htarget : target.isZero = false) (anyAxis : Bool) :
    fromTo source target anyAxis = .ok ⟨rotateFromTo source target anyAxis,
      if !anyAxis && source.collinear target && Scalar.lt (source.dot target) 0 then
        [.ambiguousRotation source target] else []⟩ := by
  simp [fromTo, Vec.nonZero, hsource, htarget, Bind.bind, Except.bind, pure, Except.pure]

theorem constructed_rotateFromTo {source target : Vec α} (hsource : source.isZero = false)
    (htarget : target.isZero = false) (anyAxis : Bool) :
    Constructed (rotateFromTo source target anyAxis) :=
  .fromTo (fromTo_eq_ok hsource htarget anyAxis)

theorem Constructed.elements {t : Transform α} (ht : Constructed t) :
    ∀ s ∈ t.elements, Constructed s := by
  have hsingle : t.elements = [t] → ∀ s ∈ t.elements, Constructed s := by
    intro h
    rw [h]
    simpa using ht
  cases ht with
  | chain h => exact h
  | around h => exact hsingle (by rw [(around_ok.mp h).2]; rfl)
  | along h => exact hsingle (by rw [(along_ok.mp h).2]; rfl)
  | fromTo h => exact hsingle (by rw [(fromTo_ok h).2.2]; rfl)
  | _ => exact hsingle rfl

/-- Composition only puts together what was constructed. -/
theorem Constructed.mul {t u : Transform α} (ht : Constructed t) (hu : Constructed u) :
    Constructed (t * u) := by
  refine .chain fun s hs => ?_
  rcases List.mem_append.mp hs with hs | hs
  · exact ht.elements s hs
  · exact hu.elements s hs

end Transform

end SolidScene
