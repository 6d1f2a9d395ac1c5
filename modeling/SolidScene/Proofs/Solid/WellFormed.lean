import SolidScene.Proofs.Scad.Faults
import SolidScene.Proofs.Solid.Nesting

/-!
# Solids are well-formed statements

Every statement that a solid is written with is one of nine calls with the children that the call
takes: none for a shape, one for a motion, and one for each part of a combination. Rotations and
chains that do nothing leave no statement behind, and no list in a statement is empty. A solid
therefore has source under every layout, unless one of its numbers is not finite.
-/
namespace SolidScene

open Scad (Node Value Layout)

namespace Scad

variable {α : Type}

theorem Value.list_nil_notMem_within_ofVec (v : Vec α) : list [] ∉ (Value.ofVec v).within := by
  simp [Value.ofVec, Vec.toList, Value.within_list, Value.within]

namespace Node

def shapeNames : List String := ["cube", "sphere", "cylinder"]

def motionNames : List String := ["translate", "rotate", "scale"]

def combinationNames : List String := ["union", "intersection", "difference"]

/-- The statement is a call that is known, with children as the call takes them, and none of its
values is, or has inside it, an empty list. -/
structure WellFormed (n : Node α) : Prop where
  call : (∃ name ∈ shapeNames, n.name = some name ∧ n.children = []) ∨
    (∃ name ∈ motionNames, n.name = some name ∧ ∃ c, n.children = [c]) ∨
    ∃ name ∈ combinationNames, n.name = some name
  values : Value.list [] ∉ n.values

/-- The statement is a call of a combination. -/
def combines (n : Node α) : Bool := n.name.any combinationNames.contains

theorem combines_eq_false {n : Node α} {name : String} (hname : n.name = some name)
    (hmem : name ∈ shapeNames ++ motionNames) : n.combines = false := by
  have hother : ∀ name ∈ shapeNames ++ motionNames, combinationNames.contains name = false := by
    decide
  rw [combines, hname, Option.any_some, hother name hmem]

theorem WellFormed.name_ne {n : Node α} (h : n.WellFormed) : ¬n.Misnamed := by
  have hname : ∃ name ∈ shapeNames ++ motionNames ++ combinationNames, n.name = some name := by
    rcases h.call with ⟨name, hmem, hname, -⟩ | ⟨name, hmem, hname, -⟩ | ⟨name, hmem, hname⟩
    · exact ⟨name, by simp [hmem], hname⟩
    · exact ⟨name, by simp [hmem], hname⟩
    · exact ⟨name, by simp [hmem], hname⟩
  obtain ⟨name, hmem, hname⟩ := hname
  rintro (hempty | ⟨hnone, -⟩)
  · obtain rfl := Option.some.inj (hname.symm.trans hempty)
    revert hmem
    decide
  · rw [hname] at hnone
    cases hnone

/-- All that can be at fault in a well-formed statement is a number. -/
theorem WellFormed.fault_eq [Numeral α] {n : Node α} (h : n.WellFormed) {fault : Fault α}
    (hfault : n.fault? = some fault) :
    ∃ x, Numeral.isFinite x = false ∧ fault = .nonFinite x := by
  rw [fault?, (nameFault?_eq_none n).mpr h.name_ne, Option.map_none, Option.none_or] at hfault
  obtain ⟨v, hv, hvalue⟩ := List.exists_of_findSome?_eq_some hfault
  cases v with
  | number x =>
    cases hfinite : Numeral.isFinite x with
    | true => simp [Value.fault?, hfinite] at hvalue
    | false => exact ⟨x, hfinite, by simpa [Value.fault?, hfinite, eq_comm] using hvalue⟩
  | text s => cases hvalue
  | list items =>
    cases items with
    | nil => exact absurd hv h.values
    | cons item items => cases hvalue

/-- The call of a motion, whatever its children. -/
structure IsMotion (c : Node α) : Prop where
  name : ∃ name ∈ motionNames, c.name = some name
  values : Value.list [] ∉ c.values

theorem isMotion_vectorCall {name : String} (hname : name ∈ motionNames) (v : Vec α) :
    (Transform.vectorCall name v none).IsMotion where
  name := ⟨name, hname, rfl⟩
  values := by
    simpa [values, Transform.vectorCall, param, onto, adopt, call] using
      Value.list_nil_notMem_within_ofVec v

theorem isMotion_rotateCall (axis : Vec α) (angle : α) :
    (Transform.rotateCall axis angle none).IsMotion where
  name := ⟨"rotate", by decide, rfl⟩
  values := by
    simpa [values, Transform.rotateCall, keyword, onto, adopt, call, Value.within] using
      Value.list_nil_notMem_within_ofVec axis

theorem IsMotion.commented {c : Node α} (h : c.IsMotion) (line : String) :
    (c.commented line).IsMotion := ⟨h.name, h.values⟩

theorem IsMotion.wellFormed {c : Node α} (h : c.IsMotion) (x : Node α) :
    { c with children := [x] }.WellFormed where
  call := by
    obtain ⟨name, hmem, hname⟩ := h.name
    exact .inr (.inl ⟨name, hmem, hname, x, rfl⟩)
  values := h.values

theorem IsMotion.combines_eq {c : Node α} (h : c.IsMotion) : c.combines = false := by
  obtain ⟨name, hmem, hname⟩ := h.name
  exact combines_eq_false hname (List.mem_append_right _ hmem)

/-- Every statement of the tree is well formed, and these are its combinations, in pre-order. -/
structure Assembled (n : Node α) (combinations : List (Node α)) : Prop where
  wellFormed : ∀ m ∈ n.nodes, m.WellFormed
  combinations : n.nodes.filter combines = combinations

theorem assembled_shape {n : Node α} (name : String) (hmem : name ∈ shapeNames)
    (hname : n.name = some name) (hchildren : n.children = [])
    (hvalues : Value.list [] ∉ n.values) : n.Assembled [] := by
  have hnodes : n.nodes = [n] := by rw [nodes_eq, hchildren, List.flatMap_nil]
  have hother : n.combines = false := combines_eq_false hname (List.mem_append_left _ hmem)
  constructor
  · rw [hnodes, List.forall_mem_singleton]
    exact ⟨.inl ⟨name, hmem, hname, hchildren⟩, hvalues⟩
  · rw [hnodes, List.filter_singleton, hother]
    rfl

/-- Motions put well-formed statements around a tree and no combinations. -/
theorem assembled_nest {calls ks : List (Node α)} (hcalls : ∀ c ∈ calls, c.IsMotion) {x : Node α}
    (hx : x.Assembled ks) : (Transform.nest calls x).Assembled ks := by
  induction calls with
  | nil => exact hx
  | cons c calls ih =>
    rw [List.forall_mem_cons] at hcalls
    have hinner := ih hcalls.2
    have hnodes : (Transform.nest (c :: calls) x).nodes =
        { c with children := [Transform.nest calls x] } :: (Transform.nest calls x).nodes := by
      rw [nodes_eq, Transform.nest, List.flatMap_singleton]
    have hother : combines { c with children := [Transform.nest calls x] } = false :=
      hcalls.1.combines_eq
    constructor
    · rw [hnodes, List.forall_mem_cons]
      exact ⟨hcalls.1.wellFormed _, hinner.wellFormed⟩
    · rw [hnodes, List.filter_cons, hother, hinner.combinations]
      rfl

end Node

end Scad

namespace Transform

variable {α : Type} [Scalar α] [Numeral α]

theorem isMotion_betweenCalls (source goal : Vec α) :
    ∀ c ∈ betweenCalls source goal, c.IsMotion := by
  unfold betweenCalls
  split
  · rw [List.forall_mem_singleton]
    exact (Node.isMotion_rotateCall _ _).commented _
  · exact List.forall_mem_nil _

theorem isMotion_yprCalls (yaw pitch roll : α) : ∀ c ∈ yprCalls yaw pitch roll, c.IsMotion := by
  have hturn (angles : Vec α) : (vectorCall "rotate" angles none).IsMotion :=
    Node.isMotion_vectorCall (by decide) angles
  unfold yprCalls
  split
  · rw [List.forall_mem_singleton]
    exact (hturn 0).commented _
  · exact List.forall_mem_cons.mpr
      ⟨(hturn _).commented _, List.forall_mem_map.mpr fun angles _ => hturn angles⟩

theorem isMotion_alongCalls (axis : Vec α) (factor : α) :
    ∀ c ∈ alongCalls axis factor, c.IsMotion := by
  have hscale (factors : Vec α) : (vectorCall "scale" factors none).IsMotion :=
    Node.isMotion_vectorCall (by decide) factors
  unfold alongCalls
  split
  · rw [List.forall_mem_singleton]
    exact hscale _
  · split
    · rw [List.forall_mem_singleton]
      exact hscale _
    · simp only [List.forall_mem_append, List.forall_mem_cons]
      exact ⟨isMotion_betweenCalls _ _, hscale _, isMotion_betweenCalls _ _⟩

theorem isMotion_calls (t : Transform α) : ∀ c ∈ t.calls, c.IsMotion := by
  induction t using induction with
  | single t ht =>
    cases t with
    | chain ts => cases ht
    | rotateYpr yaw pitch roll => exact isMotion_yprCalls yaw pitch roll
    | rotateFromTo source goal anyAxis => exact isMotion_betweenCalls source goal
    | scaleAlong axis factor => exact isMotion_alongCalls axis factor
    | rotateAround axis angle =>
      exact List.forall_mem_singleton.mpr (Node.isMotion_rotateCall axis angle)
    | _ => exact List.forall_mem_singleton.mpr (Node.isMotion_vectorCall (by decide) _)
  | chain ts ih =>
    intro c hc
    rw [calls_chain] at hc
    obtain ⟨t, ht, hc⟩ := List.mem_flatMap.mp hc
    exact ih t ht c hc

end Transform

variable {α : Type}

namespace Solid

mutual

/-- The combinations in a solid, each before those in its parts. -/
def combinations : Solid α → List (Combinator × List (Solid α))
  | primitive _ => []
  | placed _ s => s.combinations
  | combined kind parts => (kind, parts) :: combinationsOf parts

def combinationsOf : List (Solid α) → List (Combinator × List (Solid α))
  | [] => []
  | s :: rest => s.combinations ++ combinationsOf rest

end

theorem combinationsOf_eq_flatMap (parts : List (Solid α)) :
    combinationsOf parts = parts.flatMap combinations :=
  eq_flatMap_of_cons rfl (fun _ _ => rfl) parts

end Solid

variable [Scalar α]

theorem assembled_standingFrustum (length baseRadius capRadius : α) :
    (standingFrustum length baseRadius capRadius).Assembled [] := by
  unfold standingFrustum
  split
  · refine Node.assembled_shape "cylinder" (by decide) rfl rfl ?_
    simp [Node.values, Node.call, Node.param, Node.keyword, Value.within]
  · refine Node.assembled_shape "cylinder" (by decide) rfl rfl ?_
    simp [Node.values, Node.call, Node.param, Node.keyword, Value.within]

variable [Numeral α]

theorem isMotion_frustumCalls (base cap : Vec α) : ∀ c ∈ frustumCalls base cap, c.IsMotion := by
  unfold frustumCalls
  refine List.forall_mem_append.mpr ⟨?_, ?_⟩
  · split
    · exact List.forall_mem_singleton.mpr (Node.isMotion_vectorCall (by decide) base)
    · exact List.forall_mem_nil _
  · split
    · exact Transform.isMotion_betweenCalls _ _
    · exact List.forall_mem_nil _

theorem Primitive.assembled_node (p : Primitive α) : p.node.Assembled [] := by
  cases p with
  | cuboid size =>
    refine Node.assembled_shape "cube" (by decide) rfl rfl ?_
    simpa [Node.values, node, Node.call, Node.param] using
      Value.list_nil_notMem_within_ofVec size
  | sphere radius =>
    refine Node.assembled_shape "sphere" (by decide) rfl rfl ?_
    simp [Node.values, node, Node.call, Node.param, Value.within]
  | frustum base cap baseRadius capRadius =>
    rw [node, frustumNode_eq_nest]
    exact Node.assembled_nest (isMotion_frustumCalls base cap) (assembled_standingFrustum _ _ _)

namespace Solid

/-- The call of a combination, with its parts as children, in order. -/
def combinedNode (kind : Combinator) (parts : List (Solid α)) : Node α :=
  ⟨some kind.call, [], [], parts.map node, none⟩

theorem node_combined (kind : Combinator) (parts : List (Solid α)) :
    (combined kind parts).node = combinedNode kind parts := by
  rw [node, nodes_eq_map]
  rfl

theorem call_mem_combinationNames (kind : Combinator) : kind.call ∈ Node.combinationNames := by
  cases kind <;> decide

/-- A combination adds its own statement to those of its parts. -/
theorem assembled_combined (kind : Combinator) {parts : List (Solid α)}
    (h : ∀ p ∈ parts, p.node.Assembled (p.combinations.map fun c => combinedNode c.1 c.2)) :
    (combined kind parts).node.Assembled
      ((combined kind parts).combinations.map fun c => combinedNode c.1 c.2) := by
  have hnodes : (combinedNode kind parts).nodes =
      combinedNode kind parts :: parts.flatMap fun p => p.node.nodes := by
    rw [Node.nodes_eq, combinedNode, List.flatMap_map]
  have hcall : (combinedNode kind parts).combines = true :=
    List.contains_iff_mem.mpr (call_mem_combinationNames kind)
  rw [node_combined]
  constructor
  · rw [hnodes, List.forall_mem_cons]
    refine ⟨⟨.inr (.inr ⟨kind.call, call_mem_combinationNames kind, rfl⟩), List.not_mem_nil⟩, ?_⟩
    intro m hm
    obtain ⟨p, hp, hm⟩ := List.mem_flatMap.mp hm
    exact (h p hp).wellFormed m hm
  · rw [hnodes, List.filter_cons, if_pos hcall, combinations, combinationsOf_eq_flatMap,
      List.map_cons, List.filter_flatMap, List.map_flatMap]
    exact congrArg (combinedNode kind parts :: ·)
      (List.flatMap_congr fun p hp => (h p hp).combinations)

theorem assembled_node (s : Solid α) :
    s.node.Assembled (s.combinations.map fun c => combinedNode c.1 c.2) := by
  induction s using induction with
  | primitive p => exact p.assembled_node
  | placed t s ih =>
    rw [node, Transform.node_eq_nest]
    exact Node.assembled_nest t.isMotion_calls ih
  | combined kind parts ih => exact assembled_combined kind ih

/-- What a solid is written with is well formed throughout, its combinations are written with one
child for each of their parts, in order, and a number that is not finite is all that can keep it
from being emitted. -/
theorem node_wellFormed (s : Solid α) :
    (∀ m ∈ s.node.nodes, m.WellFormed) ∧
      s.node.nodes.filter Node.combines =
        (s.combinations.map fun c => ⟨some c.1.call, [], [], c.2.map node, none⟩) ∧
      ∀ layout, (∃ text, s.node.code layout = .ok text) ∨
        ∃ x, Numeral.isFinite x = false ∧ s.node.code layout = .error (.nonFinite x) := by
  have hassembled := s.assembled_node
  refine ⟨hassembled.wellFormed, hassembled.combinations, fun layout => ?_⟩
  cases hcode : s.node.code layout with
  | ok text => exact .inl ⟨text, rfl⟩
  | error fault =>
    have hfault := Node.failure?_code s.node layout
    rw [hcode] at hfault
    obtain ⟨m, hm, hlocal⟩ := List.exists_of_findSome?_eq_some hfault.symm
    obtain ⟨x, hx, rfl⟩ := (hassembled.wellFormed m hm).fault_eq hlocal
    exact .inr ⟨x, hx, rfl⟩

end Solid

end SolidScene
