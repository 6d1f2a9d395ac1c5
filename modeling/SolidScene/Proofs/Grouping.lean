import Mathlib.Data.List.Basic

/-!
# Operands under all groupings

An operator between two operands is used on a row of them by putting them together two by two, in
any grouping. If the operator concatenates what its operands contribute, then the result depends on
the row of operands alone, and is what all of them contribute together. One operand by itself is
not touched by the operator and need not be of the form of a result.
-/
namespace SolidScene

/-- A row of operands with the pairs in which they are put together. -/
inductive Grouping (β : Type) where
  | one (operand : β)
  | pair (left right : Grouping β)

namespace Grouping

variable {β γ : Type}

def operands : Grouping β → List β
  | one b => [b]
  | pair l r => l.operands ++ r.operands

def join (op : β → β → β) : Grouping β → β
  | one b => b
  | pair l r => op (l.join op) (r.join op)

theorem operands_ne_nil (g : Grouping β) : g.operands ≠ [] := by
  induction g with
  | one b => exact List.cons_ne_nil b []
  | pair l r ihl _ => exact fun h => ihl (List.append_eq_nil_iff.mp h).1

/-- Two operands at least are what a pair has. -/
theorem operands_pair_ne_singleton (l r : Grouping β) (b : β) : (pair l r).operands ≠ [b] := by
  intro h
  have hlength := congrArg List.length h
  have hl := List.length_pos_of_ne_nil l.operands_ne_nil
  have hr := List.length_pos_of_ne_nil r.operands_ne_nil
  rw [operands, List.length_append, List.length_singleton] at hlength
  omega

section Concatenating

variable {op : β → β → β} {contents : β → List γ} {build : List γ → β}
  (hop : ∀ a b, op a b = build (contents a ++ contents b))
  (hbuild : ∀ cs, contents (build cs) = cs)
include hop hbuild

theorem contents_join (g : Grouping β) : contents (g.join op) = g.operands.flatMap contents := by
  induction g with
  | one b => exact (List.flatMap_singleton contents b).symm
  | pair l r ihl ihr => rw [join, hop, hbuild, ihl, ihr, operands, List.flatMap_append]

theorem join_pair (l r : Grouping β) :
    (pair l r).join op = build ((pair l r).operands.flatMap contents) := by
  rw [join, hop, contents_join hop hbuild, contents_join hop hbuild, operands, List.flatMap_append]

theorem join_congr {g h : Grouping β} (hoperands : g.operands = h.operands) :
    g.join op = h.join op := by
  cases g with
  | pair l r =>
    cases h with
    | pair l' r' => rw [join_pair hop hbuild, join_pair hop hbuild, hoperands]
    | one b => exact absurd hoperands (operands_pair_ne_singleton l r b)
  | one a =>
    cases h with
    | pair l r => exact absurd hoperands.symm (operands_pair_ne_singleton l r a)
    | one b => exact List.singleton_inj.mp hoperands

end Concatenating

end Grouping

end SolidScene
