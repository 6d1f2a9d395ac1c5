import SolidScene.Proofs.Grouping
import SolidScene.Proofs.Solid.Parts

/-!
# Union and intersection under all groupings

However a row of solids is grouped, union and intersection make one combination of what each of
them contributes, as the sum and the product of the row do. This holds of all solids, among them
combinations of nothing and of a single part. A difference is not among these operators: it does
depend on grouping.
-/
namespace SolidScene.Solid

variable {α : Type}

/-- The operator and the total of a list flatten into one combination of a kind. -/
structure Flattens (kind : Combinator) (op : Solid α → Solid α → Solid α)
    (total : List (Solid α) → Solid α) : Prop where
  join_pair : ∀ l r : Grouping (Solid α),
    (l.pair r).join op = combined kind ((l.pair r).operands.flatMap (parts kind))
  total_eq : ∀ solids, total solids = combined kind (solids.flatMap (parts kind))
  join_congr : ∀ g h : Grouping (Solid α), g.operands = h.operands → g.join op = h.join op
  total_operands : ∀ l r : Grouping (Solid α), total (l.pair r).operands = (l.pair r).join op
  empty_left : ∀ ps, op (empty kind) (combined kind ps) = combined kind ps
  empty_right : ∀ ps, op (combined kind ps) (empty kind) = combined kind ps

theorem flattens_merge (kind : Combinator) :
    Flattens (α := α) kind (merge kind) fun solids => solids.foldl (merge kind) (empty kind) := by
  have hjoin (l r : Grouping (Solid α)) : (l.pair r).join (merge kind) =
      combined kind ((l.pair r).operands.flatMap (parts kind)) :=
    Grouping.join_pair (merge_eq kind) (parts_of_combined kind) l r
  have htotal (solids : List (Solid α)) : solids.foldl (merge kind) (empty kind) =
      combined kind (solids.flatMap (parts kind)) :=
    foldl_merge kind [] solids
  exact {
    join_pair := hjoin
    total_eq := htotal
    join_congr := fun _ _ => Grouping.join_congr (merge_eq kind) (parts_of_combined kind)
    total_operands := fun l r => by rw [htotal, hjoin]
    empty_left := fun ps => by
      rw [merge_eq, empty, parts_of_combined, parts_of_combined, List.nil_append]
    empty_right := fun ps => by
      rw [merge_eq, empty, parts_of_combined, parts_of_combined, List.append_nil] }

/-- Union and intersection of any solids depend on the row of operands alone: every grouping and
the total give the combination of their parts, in which combinations of nothing do not count. -/
theorem flattens_add_mul :
    Flattens (α := α) .union (· + ·) sum ∧ Flattens (α := α) .intersection (· * ·) product :=
  ⟨flattens_merge .union, flattens_merge .intersection⟩

end SolidScene.Solid
