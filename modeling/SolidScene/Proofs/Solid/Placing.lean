import SolidScene.Proofs.Action
import SolidScene.Proofs.Outcome
import SolidScene.Solid.Algebra

/-!
# Placing solids under all groupings

Transforms in front of a solid may be composed first, applied one by one, or both: the solid that
comes out is the same down to the last level of its structure, and the methods of solids, which name
the transforms the other way round, give it too. Chains are taken as they are, empty and nested ones
included. What they do to space is not looked at here.
-/
namespace SolidScene

variable {α : Type}

namespace Transform

theorem mul_eq_chain (t u : Transform α) : t * u = chain (t.elements ++ u.elements) := rfl

theorem elements_chain (ts : List (Transform α)) : (chain ts).elements = ts := rfl

theorem compose_assoc (t u v : Transform α) : t * u * v = t * (u * v) := by
  simp only [mul_eq_chain, elements_chain, List.append_assoc]

end Transform

namespace Solid

/-- Composing first makes no difference, also if the solid is placed already. -/
theorem compose_place (t u : Transform α) (s : Solid α) : t * u * s = t * (u * s) := by
  cases s with
  | placed v s => exact congrArg (placed · s) (Transform.compose_assoc t u v)
  | primitive p => rfl
  | combined kind ps => rfl

/-- A method that places a solid, with its arguments. -/
inductive Call (α : Type) where
  | transformed (t : Transform α)
  | translated (offset : Vec α)
  | rotatedAround (axis : Vec α) (angle : α)
  | rotatedXyz (angles : Vec α)
  | rotatedYpr (yaw pitch roll : α)
  | rotatedFromTo (source target : Vec α) (anyAxis : Bool)
  | scaledUniform (factor : α)
  | scaledAxes (factors : Vec α)
  | scaledAlong (axis : Vec α) (factor : α)
  | moved (d : Direction) (amount : α)

namespace Call

variable [Scalar α]

/-- What the method makes of a solid. -/
def run (s : Solid α) : Call α → Except (Fault α) (Checked α (Solid α))
  | transformed t => .ok (.clean (s.transformed t))
  | translated offset => .ok (.clean (s.translated offset))
  | rotatedAround axis angle => do return .clean (← s.rotatedAround axis angle)
  | rotatedXyz angles => .ok (.clean (s.rotatedXyz angles))
  | rotatedYpr yaw pitch roll => .ok (.clean (s.rotatedYpr yaw pitch roll))
  | rotatedFromTo source target anyAxis => s.rotatedFromTo source target anyAxis
  | scaledUniform factor => .ok (.clean (s.scaledUniform factor))
  | scaledAxes factors => .ok (s.scaledAxes factors)
  | scaledAlong axis factor => do return .clean (← s.scaledAlong axis factor)
  | moved d amount => .ok (.clean (s.moved d amount))

/-- What the constructor of transforms with the same arguments gives. -/
def built : Call α → Except (Fault α) (Checked α (Transform α))
  | transformed t => .ok (.clean t)
  | translated offset => .ok (.clean (.translate offset))
  | rotatedAround axis angle => do return .clean (← Transform.around axis angle)
  | rotatedXyz angles => .ok (.clean (.rotateXyz angles))
  | rotatedYpr yaw pitch roll => .ok (.clean (.rotateYpr yaw pitch roll))
  | rotatedFromTo source target anyAxis => Transform.fromTo source target anyAxis
  | scaledUniform factor => .ok (.clean (.scaleUniform factor))
  | scaledAxes factors => .ok (Transform.scaled factors)
  | scaledAlong axis factor => do return .clean (← Transform.along axis factor)
  | moved d amount => .ok (.clean (d.by amount))

/-- Methods called one behind the other. The first fault ends the row. -/
def runAll (s : Solid α) (calls : List (Call α)) : Except (Fault α) (Solid α) :=
  calls.foldlM (fun s c => do return (← c.run s).value) s

/-- What the constructors give, the first one first. The first fault ends the row. -/
def builtAll (calls : List (Call α)) : Except (Fault α) (List (Transform α)) :=
  calls.mapM fun c => do return (← c.built).value

/-- A method places the solid by what the constructor gives, with its faults and warnings. -/
theorem run_eq (c : Call α) (s : Solid α) : c.run s = do return (← c.built).map (place · s) := by
  cases c with
  | rotatedAround axis angle =>
    simp only [run, built, Solid.rotatedAround]
    cases Transform.around axis angle <;> rfl
  | scaledAlong axis factor =>
    simp only [run, built, Solid.scaledAlong]
    cases Transform.along axis factor <;> rfl
  | _ => rfl

theorem runAll_eq (calls : List (Call α)) (s : Solid α) :
    runAll s calls = do return (← builtAll calls).foldl Solid.transformed s := by
  induction calls generalizing s with
  | nil => rfl
  | cons c calls ih =>
    rw [runAll, List.foldlM_cons, builtAll, List.mapM_cons, run_eq]
    cases c.built with
    | error fault => rfl
    | ok t =>
      refine (ih (t.value * s)).trans ?_
      rw [builtAll]
      cases List.mapM (fun c : Call α => do return (← c.built).value) calls <;> rfl

end Call

/-- The solid that a row of transforms makes of the solid behind it. -/
def ofAction (a : Action (Transform α) (Solid α)) : Solid α :=
  a.result (fun t u : Transform α => t * u) fun (t : Transform α) (s : Solid α) => t * s

theorem ofAction_eq_foldl (a : Action (Transform α) (Solid α)) :
    ofAction a = a.operators.reverse.foldl transformed a.target := by
  rw [ofAction, Action.result_eq_foldr compose_place, List.foldl_reverse]
  rfl

/-- However a row of transforms is grouped, it composes to the chain of its elements, and it makes
of the solid behind it what the methods of solids do, called from the last transform to the first
one. -/
theorem composition_regroups [Scalar α] :
    (∀ l r : Grouping (Transform α), (l.pair r).join (fun t u => t * u) =
        .chain ((l.pair r).operands.flatMap Transform.elements)) ∧
      (∀ a : Action (Transform α) (Solid α),
        ofAction a = a.operators.reverse.foldl transformed a.target) ∧
      ∀ (s : Solid α) (calls : List (Call α)),
        Call.runAll s calls = do return (← Call.builtAll calls).foldl transformed s :=
  ⟨Grouping.join_pair Transform.mul_eq_chain Transform.elements_chain, ofAction_eq_foldl,
    fun s calls => Call.runAll_eq calls s⟩

end Solid

end SolidScene
