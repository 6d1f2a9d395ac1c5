import SolidScene.Proofs.Transform.Flat
import SolidScene.Solid.Algebra
import SolidScene.Solid.Source

/-!
# Scene source nests as transforms compose

A transform is written as a row of calls around its target. The row does not depend on the target,
which stands unchanged inside the last call, comment and children included; a rotation that does
nothing is an empty row. Composition joins rows, so the nesting of chains does not show, and a
placed solid is written alike whether or not its transforms were composed.
-/
namespace SolidScene.Transform

open Scad (Node)

variable {α : Type}

/-- A statement inside a row of calls, the first call outermost. Each call gets one child. -/
def nest : List (Node α) → Node α → Node α
  | [], x => x
  | c :: cs, x => { c with children := [nest cs x] }

theorem nest_append (cs ds : List (Node α)) (x : Node α) :
    nest (cs ++ ds) x = nest cs (nest ds x) := by
  induction cs with
  | nil => rfl
  | cons c cs ih => rw [List.cons_append, nest, nest, ih]

def eulerCalls (steps : List (Vec α)) : List (Node α) := steps.map (vectorCall "rotate" · none)

theorem eulerNode?_eq_nest (steps : List (Vec α)) (x : Node α) :
    eulerNode? steps (some x) = some (nest (eulerCalls steps) x) := by
  induction steps with
  | nil => rfl
  | cons angles steps ih =>
    rw [eulerNode?, List.foldr_cons, ← eulerNode?, ih]
    rfl

variable [Scalar α] [Numeral α]

def betweenCalls (source goal : Vec α) : List (Node α) :=
  match betweenAxis? source goal with
  | some (axis, angle) =>
    [(rotateCall axis.normalize angle none).commented (fromToText source goal)]
  | none => []

/-- The first rotation of yaw, pitch and roll carries the comment. -/
def yprCalls (yaw pitch roll : α) : List (Node α) :=
  match eulerSteps yaw pitch roll with
  | [] => [(vectorCall "rotate" 0 none).commented (yprText yaw pitch roll)]
  | first :: rest =>
    (vectorCall "rotate" first none).commented (yprText yaw pitch roll) :: eulerCalls rest

def alongCalls (axis : Vec α) (factor : α) : List (Node α) :=
  if factor == 1 then [vectorCall "scale" (Vec.repeated 1) none]
  else
    match alignedAxis? axis with
    | some a => [vectorCall "scale" (factorsAlong a factor) none]
    | none =>
      betweenCalls axis.closestAxis axis ++
        vectorCall "scale" (alignedFactors axis.closestAxis factor) none ::
          betweenCalls axis axis.closestAxis

mutual

/-- The calls that a transform is written as, outermost first, without their children. -/
def calls : Transform α → List (Node α)
  | translate offset => [vectorCall "translate" offset none]
  | rotateAround axis angle => [rotateCall axis angle none]
  | rotateXyz angles => [vectorCall "rotate" angles none]
  | rotateYpr yaw pitch roll => yprCalls yaw pitch roll
  | rotateFromTo source goal _ => betweenCalls source goal
  | scaleUniform factor => [vectorCall "scale" (Vec.repeated factor) none]
  | scaleAxes factors => [vectorCall "scale" factors none]
  | scaleAlong axis factor => alongCalls axis factor
  | chain steps => callsOf steps

def callsOf : List (Transform α) → List (Node α)
  | [] => []
  | t :: ts => t.calls ++ callsOf ts

end

theorem callsOf_eq_flatMap (ts : List (Transform α)) : callsOf ts = ts.flatMap calls :=
  eq_flatMap_of_cons rfl (fun _ _ => rfl) ts

theorem calls_chain (ts : List (Transform α)) : (chain ts).calls = ts.flatMap calls :=
  callsOf_eq_flatMap ts

theorem flatMap_calls_elements (t : Transform α) : t.elements.flatMap calls = t.calls := by
  cases t with
  | chain ts => exact (calls_chain ts).symm
  | _ => exact List.flatMap_singleton calls _

theorem calls_mul (t u : Transform α) : (t * u).calls = t.calls ++ u.calls := by
  change (chain (t.elements ++ u.elements)).calls = _
  rw [calls_chain, List.flatMap_append, flatMap_calls_elements, flatMap_calls_elements]

/-- The calls of a transform are those of its single steps, chains taken apart at every depth. -/
theorem flatMap_calls_singles (t : Transform α) : t.singles.flatMap calls = t.calls := by
  induction t using induction with
  | single t ht => rw [singles_of_single ht, List.flatMap_singleton]
  | chain ts ih =>
    rw [singles, singlesOf_eq_flatMap, List.flatMap_assoc, calls_chain]
    exact List.flatMap_congr ih

section Childless

theorem childless_betweenCalls (source goal : Vec α) :
    ∀ c ∈ betweenCalls source goal, c.children = [] := by
  unfold betweenCalls
  split
  · simp only [List.forall_mem_singleton]
    rfl
  · exact List.forall_mem_nil _

theorem childless_yprCalls (yaw pitch roll : α) :
    ∀ c ∈ yprCalls yaw pitch roll, c.children = [] := by
  unfold yprCalls
  split
  · simp only [List.forall_mem_singleton]
    rfl
  · exact List.forall_mem_cons.mpr ⟨rfl, List.forall_mem_map.mpr fun _ _ => rfl⟩

theorem childless_alongCalls (axis : Vec α) (factor : α) :
    ∀ c ∈ alongCalls axis factor, c.children = [] := by
  unfold alongCalls
  split
  · simp only [List.forall_mem_singleton]
    rfl
  · split
    · simp only [List.forall_mem_singleton]
      rfl
    · simp only [List.forall_mem_append, List.forall_mem_cons]
      exact ⟨childless_betweenCalls _ _, rfl, childless_betweenCalls _ _⟩

theorem childless_calls (t : Transform α) : ∀ c ∈ t.calls, c.children = [] := by
  induction t using induction with
  | single t ht =>
    cases t with
    | chain ts => cases ht
    | rotateYpr yaw pitch roll => exact childless_yprCalls yaw pitch roll
    | rotateFromTo source goal anyAxis => exact childless_betweenCalls source goal
    | scaleAlong axis factor => exact childless_alongCalls axis factor
    | _ =>
      simp only [calls, List.forall_mem_singleton]
      rfl
  | chain ts ih =>
    intro c hc
    rw [calls_chain] at hc
    obtain ⟨t, ht, hc⟩ := List.mem_flatMap.mp hc
    exact ih t ht c hc

end Childless

section Nested

variable (x : Node α)

theorem betweenNode_eq_nest (source goal : Vec α) :
    betweenNode source goal (some x) = nest (betweenCalls source goal) x := by
  unfold betweenNode betweenCalls
  cases betweenAxis? source goal <;> rfl

theorem yprNode_eq_nest (yaw pitch roll : α) :
    yprNode yaw pitch roll (some x) = nest (yprCalls yaw pitch roll) x := by
  unfold yprNode yprCalls
  cases eulerSteps yaw pitch roll with
  | nil => rfl
  | cons first rest =>
    simp only [eulerNode?_eq_nest]
    rfl

theorem alongNode_eq_nest (axis : Vec α) (factor : α) :
    alongNode axis factor (some x) = nest (alongCalls axis factor) x := by
  unfold alongNode alongCalls
  split
  · rfl
  · cases alignedAxis? axis with
    | some a => rfl
    | none =>
      simp only [betweenNode_eq_nest, nest_append]
      rfl

/-- Steps that are each written as their calls are written as the calls of all, first to last. -/
theorem stepsNode?_eq_nest {ts : List (Transform α)}
    (h : ∀ t ∈ ts, ∀ y, t.node (some y) = nest t.calls y) :
    stepsNode? ts (some x) = some (nest (ts.flatMap calls) x) := by
  induction ts with
  | nil => rfl
  | cons t ts ih =>
    rw [List.forall_mem_cons] at h
    rw [stepsNode?, ih h.2, h.1, List.flatMap_cons, nest_append]

theorem node_eq_nest (t : Transform α) : ∀ x, t.node (some x) = nest t.calls x := by
  induction t using induction with
  | single t ht =>
    intro x
    cases t with
    | chain ts => cases ht
    | rotateYpr yaw pitch roll => exact yprNode_eq_nest x yaw pitch roll
    | rotateFromTo source goal anyAxis => exact betweenNode_eq_nest x source goal
    | scaleAlong axis factor => exact alongNode_eq_nest x axis factor
    | _ => rfl
  | chain ts ih =>
    intro x
    rw [node, stepsNode?_eq_nest x ih, Option.getD_some, calls_chain]

end Nested

/-- Composing with the transform of a placed solid writes what placing it twice would write. -/
theorem node_place (t : Transform α) (s : Solid α) :
    (t * s).node = (Solid.placed t s).node := by
  cases s with
  | placed u s =>
    change (t * u).node (some s.node) = t.node (some (u.node (some s.node)))
    rw [node_eq_nest, node_eq_nest, node_eq_nest, calls_mul, nest_append]
  | primitive p => rfl
  | combined kind ps => rfl

/-- The rows of calls into which transforms put their targets. -/
structure Nests (row : Transform α → List (Node α)) : Prop where
  childless : ∀ t, ∀ c ∈ row t, c.children = []
  node_eq : ∀ t x, t.node (some x) = nest (row t) x
  mul : ∀ t u, row (t * u) = row t ++ row u
  chain : ∀ ts, row (chain ts) = ts.flatMap row
  singles : ∀ t, row t = t.singles.flatMap row
  splice : ∀ ts us vs, row (.chain (ts ++ .chain us :: vs)) = row (.chain (ts ++ us ++ vs))

/-- Composition becomes nesting: a transform is written as a row of calls around any target, the
rows of composed transforms and of the steps of a chain follow one another, and a placed solid is
written as its transform around the solid, composed or not. -/
theorem nests_calls :
    Nests (α := α) calls ∧ ∀ (t : Transform α) (s : Solid α),
      (t * s).node = t.node (some s.node) ∧ (Solid.placed t s).node = t.node (some s.node) := by
  refine ⟨?_, fun t s => ⟨node_place t s, rfl⟩⟩
  exact {
    childless := childless_calls
    node_eq := node_eq_nest
    mul := calls_mul
    chain := calls_chain
    singles := fun t => t.flatMap_calls_singles.symm
    splice := fun ts us vs => by
      simp only [calls_chain, List.flatMap_append, List.flatMap_cons, List.append_assoc] }

end SolidScene.Transform
