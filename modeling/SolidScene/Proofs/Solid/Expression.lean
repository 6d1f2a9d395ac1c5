import Mathlib.Data.List.Basic
import SolidScene.Proofs.Solid.Meaning

/-!
# Expressions of solids

An expression says how a solid is put together; its value is what the operators make of it, with
all their merging, appending and absorbing. The value means what the expression means, part by
part, and has its primitives in the same order. Expressions start from primitives: a combination
that is given as such is not among them.
-/
namespace SolidScene

variable {α : Type} {P : Type*}

namespace Solid

mutual

/-- The primitives of a solid from left to right. -/
def leaves : Solid α → List (Primitive α)
  | primitive p => [p]
  | placed _ s => s.leaves
  | combined _ parts => leavesOf parts

def leavesOf : List (Solid α) → List (Primitive α)
  | [] => []
  | s :: rest => s.leaves ++ leavesOf rest

end

theorem leavesOf_eq_flatMap (solids : List (Solid α)) :
    leavesOf solids = solids.flatMap leaves :=
  eq_flatMap_of_cons rfl (fun _ _ => rfl) solids

theorem leaves_combined (kind : Combinator) (ps : List (Solid α)) :
    (combined kind ps).leaves = ps.flatMap leaves := by
  rw [leaves, leavesOf_eq_flatMap]

theorem leaves_parts (kind : Combinator) (s : Solid α) :
    (s.parts kind).flatMap leaves = s.leaves := by
  rcases parts_cases kind s with hs | ⟨-, hparts⟩
  · conv_rhs => rw [hs, leaves_combined]
  · rw [hparts, List.flatMap_singleton]

theorem leaves_merge (kind : Combinator) (a b : Solid α) :
    (merge kind a b).leaves = a.leaves ++ b.leaves := by
  rw [merge_eq, leaves_combined, List.flatMap_append, leaves_parts, leaves_parts]

theorem leaves_sub (a b : Solid α) : (a - b).leaves = a.leaves ++ b.leaves := by
  rw [sub_eq, difference, leaves_combined]
  split
  · simp
  · rw [List.flatMap_append, leaves_parts, List.flatMap_singleton]

theorem leaves_foldl_merge (kind : Combinator) (solids : List (Solid α)) :
    (solids.foldl (merge kind) (empty kind)).leaves = solids.flatMap leaves := by
  rw [empty, foldl_merge, leaves_combined, List.nil_append, List.flatMap_assoc]
  simp only [leaves_parts]

theorem leaves_place (t : Transform α) (s : Solid α) : (t * s).leaves = s.leaves := by
  cases s <;> rfl

end Solid

/-- How a solid is put together from primitives. -/
inductive Expression (α : Type) where
  | primitive (shape : Primitive α)
  | add (a b : Expression α)
  | mul (a b : Expression α)
  | sub (a b : Expression α)
  | place (transform : Transform α) (e : Expression α)
  | sum (items : List (Expression α))
  | product (items : List (Expression α))

namespace Expression

/-- A property of all expressions, if it passes from the operands of each operator to its result. -/
theorem induction {Q : Expression α → Prop} (primitive : ∀ p, Q (primitive p))
    (add : ∀ a b, Q a → Q b → Q (add a b)) (mul : ∀ a b, Q a → Q b → Q (mul a b))
    (sub : ∀ a b, Q a → Q b → Q (sub a b)) (place : ∀ t e, Q e → Q (place t e))
    (sum : ∀ es, (∀ e ∈ es, Q e) → Q (sum es))
    (product : ∀ es, (∀ e ∈ es, Q e) → Q (product es)) : ∀ e, Q e
  | .primitive p => primitive p
  | .add a b => add a b (induction primitive add mul sub place sum product a)
    (induction primitive add mul sub place sum product b)
  | .mul a b => mul a b (induction primitive add mul sub place sum product a)
    (induction primitive add mul sub place sum product b)
  | .sub a b => sub a b (induction primitive add mul sub place sum product a)
    (induction primitive add mul sub place sum product b)
  | .place t e => place t e (induction primitive add mul sub place sum product e)
  | .sum es => sum es fun e _ => induction primitive add mul sub place sum product e
  | .product es => product es fun e _ => induction primitive add mul sub place sum product e

mutual

/-- What the operators make of an expression. -/
def value : Expression α → Solid α
  | primitive p => .primitive p
  | add a b => a.value + b.value
  | mul a b => a.value * b.value
  | sub a b => a.value - b.value
  | place t e => t * e.value
  | sum es => Solid.sum (values es)
  | product es => Solid.product (values es)

def values : List (Expression α) → List (Solid α)
  | [] => []
  | e :: es => e.value :: values es

end

mutual

/-- The points of an expression, put together from those of its operands. -/
def meaning (I : Interpretation α P) : Expression α → Set P
  | primitive p => I.shape p
  | add a b => a.meaning I ∪ b.meaning I
  | mul a b => a.meaning I ∩ b.meaning I
  | sub a b => a.meaning I \ b.meaning I
  | place t e => t.act I '' e.meaning I
  | sum es => ⋃ A ∈ meanings I es, A
  | product es => ⋂ A ∈ meanings I es, A

def meanings (I : Interpretation α P) : List (Expression α) → List (Set P)
  | [] => []
  | e :: es => e.meaning I :: meanings I es

end

mutual

/-- The primitives of an expression from left to right. -/
def leaves : Expression α → List (Primitive α)
  | primitive p => [p]
  | add a b => a.leaves ++ b.leaves
  | mul a b => a.leaves ++ b.leaves
  | sub a b => a.leaves ++ b.leaves
  | place _ e => e.leaves
  | sum es => leavesOf es
  | product es => leavesOf es

def leavesOf : List (Expression α) → List (Primitive α)
  | [] => []
  | e :: es => e.leaves ++ leavesOf es

end

theorem values_eq_map (es : List (Expression α)) : values es = es.map value :=
  eq_map_of_cons rfl (fun _ _ => rfl) es

theorem meanings_eq_map (I : Interpretation α P) (es : List (Expression α)) :
    meanings I es = es.map (meaning I) :=
  eq_map_of_cons rfl (fun _ _ => rfl) es

theorem leavesOf_eq_flatMap (es : List (Expression α)) : leavesOf es = es.flatMap leaves :=
  eq_flatMap_of_cons rfl (fun _ _ => rfl) es

/-- The operators never make a difference of no solids. -/
theorem value_ne_empty_difference (e : Expression α) : e.value ≠ .empty .difference := by
  cases e with
  | primitive p => simp [value, Solid.empty]
  | add a b => simp [value, Solid.add_eq, Solid.union, Solid.empty]
  | mul a b => simp [value, Solid.mul_eq, Solid.intersection, Solid.empty]
  | sub a b =>
    rw [value, Solid.sub_eq]
    split <;> simp [Solid.difference, Solid.empty]
  | place t e => cases h : e.value <;> simp [value, h, HMul.hMul, Solid.place, Solid.empty]
  | sum es => simp [value, Solid.sum_eq, Solid.union, Solid.empty]
  | product es => simp [value, Solid.product_eq, Solid.intersection, Solid.empty]

theorem meaning_value_eq (I : Interpretation α P) (e : Expression α) :
    e.value.meaning I = e.meaning I := by
  have hitems : ∀ es : List (Expression α), (∀ e ∈ es, e.value.meaning I = e.meaning I) →
      (values es).map (Solid.meaning I) = meanings I es := by
    intro es h
    rw [values_eq_map, meanings_eq_map, List.map_map]
    exact List.map_congr_left h
  induction e using Expression.induction with
  | primitive p => rfl
  | add a b iha ihb => rw [value, Solid.meaning_add, iha, ihb, meaning]
  | mul a b iha ihb => rw [value, Solid.meaning_mul, iha, ihb, meaning]
  | sub a b iha ihb =>
    rw [value, Solid.meaning_sub_of_ne_empty I a.value_ne_empty_difference, iha, ihb, meaning]
  | place t e ih => rw [value, Solid.meaning_place, ih, meaning]
  | sum es ih => rw [value, Solid.meaning_sum, hitems es ih, meaning, Combinator.region]
  | product es ih => rw [value, Solid.meaning_product, hitems es ih, meaning, Combinator.region]

theorem leaves_value_eq (e : Expression α) : e.value.leaves = e.leaves := by
  have hitems : ∀ es : List (Expression α), (∀ e ∈ es, e.value.leaves = e.leaves) →
      (values es).flatMap Solid.leaves = leavesOf es := by
    intro es h
    rw [values_eq_map, leavesOf_eq_flatMap, List.flatMap_map]
    exact List.flatMap_congr h
  induction e using Expression.induction with
  | primitive p => rfl
  | add a b iha ihb => rw [leaves, ← iha, ← ihb]; exact Solid.leaves_merge .union _ _
  | mul a b iha ihb => rw [leaves, ← iha, ← ihb]; exact Solid.leaves_merge .intersection _ _
  | sub a b iha ihb => rw [value, Solid.leaves_sub, iha, ihb, leaves]
  | place t e ih => rw [value, Solid.leaves_place, ih, leaves]
  | sum es ih =>
    rw [leaves, ← hitems es ih]
    exact Solid.leaves_foldl_merge .union _
  | product es ih =>
    rw [leaves, ← hitems es ih]
    exact Solid.leaves_foldl_merge .intersection _

/-- The operators keep the meaning of an expression and the order of its primitives, whatever they
merge, append or absorb. -/
theorem meaning_value (I : Interpretation α P) (e : Expression α) :
    e.value.meaning I = e.meaning I ∧ e.value.leaves = e.leaves :=
  ⟨meaning_value_eq I e, leaves_value_eq e⟩

end Expression

end SolidScene
