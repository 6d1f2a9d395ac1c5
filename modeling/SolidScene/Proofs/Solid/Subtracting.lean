import SolidScene.Proofs.Solid.Parts
import SolidScene.Scalar.Double

/-!
# Rows of subtractions

What is left of a solid from which others are taken away one after the other, down to the last
level of its structure. A subtrahend that is a difference itself starts a new difference, in which
all that came before it is the first part; any other one joins the difference that is there. What
the solids mean is not looked at here.
-/
namespace SolidScene.Solid

variable {α : Type}

theorem sub_difference (a : Solid α) {b : Solid α} (hb : b.isCombined .difference = true) :
    a - b = difference [a, b] := by
  rw [sub_eq, if_pos hb]

theorem sub_of_not_difference (a : Solid α) {b : Solid α} (hb : b.isCombined .difference = false) :
    a - b = difference (a.parts .difference ++ [b]) := by
  rw [sub_eq, hb, if_neg Bool.false_ne_true]

theorem parts_difference (ps : List (Solid α)) : (difference ps).parts .difference = ps :=
  parts_of_combined .difference ps

/-- Subtrahends that are no differences join a difference in their order. -/
theorem foldl_sub_difference (ps : List (Solid α)) {bs : List (Solid α)}
    (hbs : ∀ b ∈ bs, b.isCombined .difference = false) :
    bs.foldl (· - ·) (difference ps) = difference (ps ++ bs) := by
  induction bs generalizing ps with
  | nil => rw [List.foldl_nil, List.append_nil]
  | cons b bs ih =>
    rw [List.forall_mem_cons] at hbs
    have hfirst : difference ps - b = difference (ps ++ [b]) := by
      rw [sub_of_not_difference _ hbs.1, parts_difference]
    rw [List.foldl_cons, hfirst, ih _ hbs.2, List.append_assoc, List.singleton_append]

/-- If no difference is taken away, then a row of subtractions makes one difference of the first
solid, or of its parts if it is a difference, and of all subtrahends. Otherwise the last difference
that is taken away is the second part, behind what the subtrahends before it have left, and the
ones after it follow. -/
theorem foldl_sub (a : Solid α) :
    (∀ bs ≠ [], (∀ b ∈ bs, b.isCombined .difference = false) →
        bs.foldl (· - ·) a = difference (a.parts .difference ++ bs)) ∧
      ∀ before b after, b.isCombined .difference = true →
        (∀ c ∈ after, c.isCombined .difference = false) →
        (before ++ b :: after).foldl (· - ·) a =
          difference (before.foldl (· - ·) a :: b :: after) := by
  constructor
  · intro bs hne hbs
    obtain ⟨b, bs, rfl⟩ := List.exists_cons_of_ne_nil hne
    rw [List.forall_mem_cons] at hbs
    rw [List.foldl_cons, sub_of_not_difference a hbs.1, foldl_sub_difference _ hbs.2,
      List.append_assoc, List.singleton_append]
  · intro before b after hb hafter
    -- The last difference among the subtrahends resets what the ones behind it join.
    rw [List.foldl_append, List.foldl_cons, sub_difference _ hb, foldl_sub_difference _ hafter,
      List.cons_append, List.singleton_append]

/-- A block with a ball taken out of it. -/
def shell : Solid Float := (cube 4).value - (sphere 1).value

theorem foldl_sub_shell :
    [(sphere 2).value, (cube 1).value].foldl (· - ·) shell =
        difference [(cube 4).value, (sphere 1).value, (sphere 2).value, (cube 1).value] ∧
      [(sphere 2).value, shell, (cube 1).value].foldl (· - ·) shell =
        difference [difference [(cube 4).value, (sphere 1).value, (sphere 2).value], shell,
          (cube 1).value] := by
  obtain ⟨joined, nested⟩ := foldl_sub shell
  have hplain : ∀ b ∈ [(sphere 2).value, (cube (1 : Float)).value],
      b.isCombined .difference = false := by
    simp [sphere, cube, isCombined]
  exact ⟨joined _ (List.cons_ne_nil _ _) hplain,
    nested [(sphere 2).value] shell [(cube 1).value] rfl (List.forall_mem_cons.mp hplain).2⟩

end SolidScene.Solid
