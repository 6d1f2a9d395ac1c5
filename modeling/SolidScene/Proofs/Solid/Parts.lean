import SolidScene.Solid.Algebra

/-!
# The parts that operators put together

Union, intersection and difference of two solids are told apart by what each operand contributes:
the parts of a combination of the same kind, or the operand as one part. In these terms each
operator has one equation, whatever the kinds of its operands. What the parts mean is not looked at
here.
-/
namespace SolidScene.Solid

variable {α : Type}

/-- What a solid contributes to a combination that takes in the parts of its own kind. -/
def parts (kind : Combinator) : Solid α → List (Solid α)
  | combined k ps => if k = kind then ps else [combined k ps]
  | s => [s]

theorem parts_of_combined (kind : Combinator) (ps : List (Solid α)) :
    (combined kind ps).parts kind = ps := by
  rw [parts, if_pos rfl]

theorem parts_of_not_combined {kind : Combinator} {s : Solid α}
    (h : s.isCombined kind = false) : s.parts kind = [s] := by
  cases s with
  | combined k ps =>
    have hk : k ≠ kind := by simpa [isCombined] using h
    rw [parts, if_neg hk]
  | primitive p => rfl
  | placed t s => rfl

/-- A solid is a combination of its parts of a kind, or the one such part. -/
theorem parts_cases (kind : Combinator) (s : Solid α) :
    s = combined kind (s.parts kind) ∨ s.isCombined kind = false ∧ s.parts kind = [s] := by
  cases h : s.isCombined kind with
  | false => exact .inr ⟨rfl, parts_of_not_combined h⟩
  | true =>
    cases s with
    | combined k ps =>
      obtain rfl : k = kind := by simpa [isCombined] using h
      exact .inl (by rw [parts_of_combined])
    | primitive p => cases h
    | placed t s => cases h

theorem merge_eq (kind : Combinator) (a b : Solid α) :
    merge kind a b = combined kind (a.parts kind ++ b.parts kind) := by
  cases a with
  | combined k as =>
    cases b with
    | combined l bs => by_cases hk : k = kind <;> by_cases hl : l = kind <;> simp [merge, parts, *]
    | primitive p => by_cases hk : k = kind <;> simp [merge, parts, hk]
    | placed t s => by_cases hk : k = kind <;> simp [merge, parts, hk]
  | primitive p =>
    cases b with
    | combined l bs => by_cases hl : l = kind <;> simp [merge, parts, hl]
    | primitive q => rfl
    | placed t s => rfl
  | placed t s =>
    cases b with
    | combined l bs => by_cases hl : l = kind <;> simp [merge, parts, hl]
    | primitive q => rfl
    | placed u r => rfl

theorem add_eq (a b : Solid α) : a + b = union (a.parts .union ++ b.parts .union) :=
  merge_eq .union a b

theorem mul_eq (a b : Solid α) :
    a * b = intersection (a.parts .intersection ++ b.parts .intersection) :=
  merge_eq .intersection a b

/-- A difference is nested on the right, and takes in the parts of one on the left unless another
one is taken away from it. -/
theorem sub_eq (a b : Solid α) :
    a - b =
      difference (if b.isCombined .difference then [a, b] else a.parts .difference ++ [b]) := by
  change subtract a b = _
  cases a with
  | combined k as =>
    cases k with
    | difference =>
      rw [subtract, parts_of_combined]
      split <;> rfl
    | union => cases h : b.isCombined .difference <;> simp [subtract, parts]
    | intersection => cases h : b.isCombined .difference <;> simp [subtract, parts]
  | primitive p => cases h : b.isCombined .difference <;> simp [subtract, parts]
  | placed t s => cases h : b.isCombined .difference <;> simp [subtract, parts]

/-- Merging a list of solids into a combination appends what each of them contributes. -/
theorem foldl_merge (kind : Combinator) (ps solids : List (Solid α)) :
    solids.foldl (merge kind) (combined kind ps) =
      combined kind (ps ++ solids.flatMap (parts kind)) := by
  induction solids generalizing ps with
  | nil => simp
  | cons s solids ih =>
    rw [List.foldl_cons, merge_eq, parts_of_combined, ih, List.flatMap_cons, List.append_assoc]

theorem sum_eq (solids : List (Solid α)) : sum solids = union (solids.flatMap (parts .union)) :=
  foldl_merge .union [] solids

theorem product_eq (solids : List (Solid α)) :
    product solids = intersection (solids.flatMap (parts .intersection)) :=
  foldl_merge .intersection [] solids

end SolidScene.Solid
