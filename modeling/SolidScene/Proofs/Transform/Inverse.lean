import Mathlib.Data.List.Forall2
import SolidScene.Proofs.Outcome
import SolidScene.Transform.Inverse

/-!
# The inverse of a chain, step by step

What an inverse consists of if there is one: reciprocals of factors, and for a chain the elements
of the inverses of its steps, in reverse order. Nothing is said here of what an inverse does.
-/
namespace SolidScene.Transform

variable {α : Type} [Scalar α]

theorem reciprocal_ok {factor back : α} {name : FactorName} :
    reciprocal factor name = .ok back ↔ (factor == 0) = false ∧ back = 1 / factor := by
  unfold reciprocal
  cases factor == 0 <;> simp [eq_comm]

section Scales

variable {u : Transform α}

theorem inverse_scaleUniform_ok {factor : α} :
    (scaleUniform factor).inverse = .ok u ↔
      (factor == 0) = false ∧ u = scaleUniform (1 / factor) := by
  simp only [inverse, bind_ok, pure_ok, reciprocal_ok]
  constructor
  · rintro ⟨_, ⟨hfactor, rfl⟩, rfl⟩
    exact ⟨hfactor, rfl⟩
  · rintro ⟨hfactor, rfl⟩
    exact ⟨_, ⟨hfactor, rfl⟩, rfl⟩

theorem inverse_scaleAxes_ok {factors : Vec α} :
    (scaleAxes factors).inverse = .ok u ↔
      (∀ axis, (factors.get axis == 0) = false) ∧ u = scaleAxes (factors.map (1 / ·)) := by
  simp only [inverse, bind_ok, pure_ok, reciprocal_ok]
  constructor
  · rintro ⟨_, ⟨hx, rfl⟩, _, ⟨hy, rfl⟩, _, ⟨hz, rfl⟩, rfl⟩
    refine ⟨fun axis => ?_, rfl⟩
    cases axis with
    | x => exact hx
    | y => exact hy
    | z => exact hz
  · rintro ⟨hfactors, rfl⟩
    exact ⟨_, ⟨hfactors .x, rfl⟩, _, ⟨hfactors .y, rfl⟩, _, ⟨hfactors .z, rfl⟩, rfl⟩

theorem inverse_scaleAlong_ok {axis : Vec α} {factor : α} :
    (scaleAlong axis factor).inverse = .ok u ↔
      (factor == 0) = false ∧ u = scaleAlong axis (1 / factor) := by
  simp only [inverse, bind_ok, pure_ok, reciprocal_ok]
  constructor
  · rintro ⟨_, ⟨hfactor, rfl⟩, rfl⟩
    exact ⟨hfactor, rfl⟩
  · rintro ⟨hfactor, rfl⟩
    exact ⟨_, ⟨hfactor, rfl⟩, rfl⟩

end Scales

theorem inverses_ok {ts : List (Transform α)} {parts : List (List (Transform α))} :
    inverses ts = .ok parts ↔
      List.Forall₂ (fun t part => ∃ u, t.inverse = .ok u ∧ part = u.elements) ts parts := by
  induction ts generalizing parts with
  | nil => simp [inverses, eq_comm]
  | cons t ts ih =>
    simp only [inverses, bind_ok, pure_ok, List.forall₂_cons_left_iff, ih]
    constructor
    · rintro ⟨rest, hrest, u, hu, rfl⟩
      exact ⟨u.elements, rest, ⟨u, hu, rfl⟩, hrest, rfl⟩
    · rintro ⟨_, rest, ⟨u, hu, rfl⟩, hrest, rfl⟩
      exact ⟨rest, hrest, u, hu, rfl⟩

/-- The inverse of a chain is a chain of what the inverses of its steps consist of. -/
theorem inverse_chain_ok {ts : List (Transform α)} {u : Transform α} :
    (chain ts).inverse = .ok u ↔
      ∃ parts, List.Forall₂ (fun t part => ∃ u, t.inverse = .ok u ∧ part = u.elements) ts parts ∧
        u = chain parts.reverse.flatten := by
  simp only [inverse, bind_ok, pure_ok, inverses_ok]
  exact exists_congr fun parts => and_congr_right fun _ => eq_comm

/-- A step of the inverse of a chain belongs to the inverse of some step. -/
theorem mem_inverse_chain {ts : List (Transform α)} {parts : List (List (Transform α))}
    (h : List.Forall₂ (fun t part => ∃ u, t.inverse = .ok u ∧ part = u.elements) ts parts)
    {s : Transform α} (hs : s ∈ parts.reverse.flatten) :
    ∃ t ∈ ts, ∃ u, t.inverse = .ok u ∧ s ∈ u.elements := by
  obtain ⟨part, hpart, hmem⟩ := List.mem_flatten.mp hs
  rw [List.mem_reverse] at hpart
  clear hs
  induction h with
  | nil => cases hpart
  | cons hfirst _ ih =>
    rcases List.mem_cons.mp hpart with rfl | hpart
    · obtain ⟨u, hu, rfl⟩ := hfirst
      exact ⟨_, List.mem_cons_self, u, hu, hmem⟩
    · obtain ⟨t, ht, hback⟩ := ih hpart
      exact ⟨t, List.mem_cons_of_mem _ ht, hback⟩

end SolidScene.Transform
