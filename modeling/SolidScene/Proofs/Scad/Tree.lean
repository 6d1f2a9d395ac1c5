import SolidScene.Proofs.Listwise
import SolidScene.Scad.Node

/-!
# Values and statements as trees

Inductions over nested values and statements, in which what is to be shown may be assumed of the
items of a list and of the children of a node. `nodes` lists a tree in pre-order and `postorder` in
post-order, so that a property of every node of a tree, or the first one that has some mark, can be
stated without another recursion.
-/
namespace SolidScene.Scad

variable {α : Type}

namespace Value

/-- A property of all values, if it passes from the items of a list to the list. -/
theorem induction {P : Value α → Prop} (number : ∀ n, P (number n)) (text : ∀ s, P (text s))
    (list : ∀ items, (∀ item ∈ items, P item) → P (list items)) : ∀ v, P v
  | .number n => number n
  | .text s => text s
  | .list items => list items fun item _ => induction number text list item

end Value

namespace Node

/-- A property of all trees, if it passes from the children of a node to the node. -/
theorem induction {P : Node α → Prop} (step : ∀ n : Node α, (∀ c ∈ n.children, P c) → P n) :
    ∀ n, P n
  | ⟨name, ps, ks, cs, c⟩ => step ⟨name, ps, ks, cs, c⟩ fun child _ => induction step child

mutual

/-- All nodes of a tree, each before its children. -/
def nodes : Node α → List (Node α)
  | ⟨name, ps, ks, cs, c⟩ => ⟨name, ps, ks, cs, c⟩ :: nodesOf cs

def nodesOf : List (Node α) → List (Node α)
  | [] => []
  | n :: ns => n.nodes ++ nodesOf ns

end

theorem nodesOf_eq_flatMap (ns : List (Node α)) : nodesOf ns = ns.flatMap nodes :=
  eq_flatMap_of_cons rfl (fun _ _ => rfl) ns

theorem nodes_eq (n : Node α) : n.nodes = n :: n.children.flatMap nodes := by
  obtain ⟨name, ps, ks, cs, c⟩ := n
  rw [nodes, nodesOf_eq_flatMap]

mutual

/-- All nodes of a tree, each after its children. -/
def postorder : Node α → List (Node α)
  | ⟨name, ps, ks, cs, c⟩ => postorderOf cs ++ [⟨name, ps, ks, cs, c⟩]

def postorderOf : List (Node α) → List (Node α)
  | [] => []
  | n :: ns => n.postorder ++ postorderOf ns

end

theorem postorder_eq (n : Node α) : n.postorder = n.children.flatMap postorder ++ [n] := by
  obtain ⟨name, ps, ks, cs, c⟩ := n
  rw [postorder, eq_flatMap_of_cons (f := postorderOf) rfl (fun _ _ => rfl) cs]

theorem mem_postorder (m n : Node α) : m ∈ n.postorder ↔ m ∈ n.nodes := by
  induction n using Node.induction with
  | step n ih =>
    have hbelow : (∃ c ∈ n.children, m ∈ c.postorder) ↔ ∃ c ∈ n.children, m ∈ c.nodes :=
      exists_congr fun c => and_congr_right fun hc => ih c hc
    rw [postorder_eq, nodes_eq, List.mem_append, List.mem_singleton, List.mem_cons,
      List.mem_flatMap, List.mem_flatMap, hbelow, or_comm]

section Search

variable {δ : Type} (p : Node α → Option δ) (n : Node α)

/-- In pre-order the root comes first. -/
theorem findSome?_nodes :
    n.nodes.findSome? p = (p n).or (n.children.findSome? fun c => c.nodes.findSome? p) := by
  rw [nodes_eq, List.findSome?_cons, findSome?_flatMap]
  cases p n <;> rfl

/-- In post-order the root comes last. -/
theorem findSome?_postorder :
    n.postorder.findSome? p =
      (n.children.findSome? fun c => c.postorder.findSome? p).or (p n) := by
  rw [postorder_eq, List.findSome?_append, findSome?_flatMap, List.findSome?_singleton]

end Search

/-- What holds of every node of a tree holds of its root, and of every node below a child. -/
theorem forall_nodes {P : Node α → Prop} {n : Node α} :
    (∀ m ∈ n.nodes, P m) ↔ P n ∧ ∀ c ∈ n.children, ∀ m ∈ c.nodes, P m := by
  rw [nodes_eq]
  simp only [List.forall_mem_cons, List.mem_flatMap]
  exact and_congr_right fun _ =>
    ⟨fun h c hc m hm => h m ⟨c, hc, hm⟩, fun h m ⟨c, hc, hm⟩ => h c hc m hm⟩

end Node

end SolidScene.Scad
