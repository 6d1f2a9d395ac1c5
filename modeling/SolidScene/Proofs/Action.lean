import SolidScene.Proofs.Grouping

/-!
# Operators in front of an operand

A row of operators acts on an operand either one by one, from the last to the first, or after some
of them have been put together, or in any mix of both. If an operator that is put together from two
acts as the two do one after the other, then the result depends on the row and the operand alone.
-/
namespace SolidScene

/-- A row of operators in front of an operand, with the pairs in which they are put together. -/
inductive Action (β γ : Type) where
  | operand (x : γ)
  | act (group : Grouping β) (rest : Action β γ)

namespace Action

variable {β γ : Type}

def operators : Action β γ → List β
  | operand _ => []
  | act g rest => g.operands ++ rest.operators

def target : Action β γ → γ
  | operand x => x
  | act _ rest => rest.target

def result (op : β → β → β) (act : β → γ → γ) : Action β γ → γ
  | operand x => x
  | .act g rest => act (g.join op) (rest.result op act)

section Compatible

variable {op : β → β → β} {act : β → γ → γ} (hact : ∀ a b x, act (op a b) x = act a (act b x))
include hact

theorem act_join (g : Grouping β) (x : γ) : act (g.join op) x = g.operands.foldr act x := by
  induction g generalizing x with
  | one b => rfl
  | pair l r ihl ihr => rw [Grouping.join, hact, ihl, ihr, Grouping.operands, List.foldr_append]

theorem result_eq_foldr (a : Action β γ) : a.result op act = a.operators.foldr act a.target := by
  induction a with
  | operand x => rfl
  | act g rest ih => rw [result, act_join hact, ih, operators, List.foldr_append, target]

end Compatible

end Action

end SolidScene
