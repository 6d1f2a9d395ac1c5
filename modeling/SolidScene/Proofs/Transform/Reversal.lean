import SolidScene.Proofs.Scalar.Negation
import SolidScene.Proofs.Transform.Flat

/-!
# Inverses reverse compositions

The inverse of a composition is the composition of the inverses the other way round, down to the
structure of the chains and the fault that is reported. The nesting of chains does not show in an
inverse: it consists of what the inverses of the single steps consist of, from the last step to the
first. Steps that have an inverse of their own kind come back when a chain is inverted twice, which
is shown for double precision, as negation is exact there.
-/
namespace SolidScene.Transform

variable {α : Type} [Scalar α]

/-- What the inverses of a row of transforms consist of, from the last transform to the first. The
first fault on the way ends it. -/
def undoing (ts : List (Transform α)) : Except (Fault α) (List (Transform α)) := do
  return (← ts.reverse.mapM inverse).flatMap elements

theorem undoing_singleton (t : Transform α) : undoing [t] = do return (← t.inverse).elements := by
  rw [undoing, List.reverse_singleton, List.mapM_cons]
  cases t.inverse with
  | error fault => rfl
  | ok u =>
    change Except.ok ([u].flatMap elements) = .ok u.elements
    rw [List.flatMap_singleton]

theorem undoing_append (ts us : List (Transform α)) :
    undoing (ts ++ us) = do
      let after ← undoing us
      let before ← undoing ts
      return after ++ before := by
  simp only [undoing, List.reverse_append, List.mapM_append, bind_assoc, pure_bind,
    List.flatMap_append]

theorem inverse_chain (ts : List (Transform α)) :
    (chain ts).inverse = do return chain (← undoing ts) := by
  have hinverses : (do return (← inverses ts).reverse.flatten) = undoing ts := by
    induction ts with
    | nil => rfl
    | cons t ts ih =>
      rw [← List.singleton_append, undoing_append, undoing_singleton, ← ih]
      simp only [List.singleton_append, inverses, bind_assoc, pure_bind, List.reverse_cons,
        List.flatten_append, List.flatten_singleton]
  rw [inverse, ← hinverses, bind_assoc]
  simp only [pure_bind]

theorem undoing_elements (t : Transform α) :
    undoing t.elements = do return (← t.inverse).elements := by
  cases t with
  | chain ts =>
    rw [inverse_chain, bind_assoc]
    simp only [pure_bind]
    exact (bind_pure _).symm
  | _ => exact undoing_singleton _

/-- Taking chains apart first makes no difference. -/
theorem undoing_singles (t : Transform α) : undoing t.singles = undoing t.elements := by
  induction t using induction with
  | single t ht => rw [singles_of_single ht, elements_of_single ht]
  | chain ts ih =>
    change undoing (singlesOf ts) = undoing ts
    rw [singlesOf_eq_flatMap]
    induction ts with
    | nil => rfl
    | cons t ts ihts =>
      rw [List.forall_mem_cons] at ih
      rw [List.flatMap_cons, undoing_append, ih.1, ihts ih.2, undoing_elements,
        ← undoing_singleton, ← undoing_append, List.singleton_append]

theorem inverse_mul (a b : Transform α) :
    (a * b).inverse = do
      let u ← b.inverse
      let v ← a.inverse
      return u * v := by
  change (chain (a.elements ++ b.elements)).inverse = _
  rw [inverse_chain, undoing_append, undoing_elements, undoing_elements]
  simp only [bind_assoc, pure_bind]
  rfl

section Reversible

/-- A step that has an inverse of its own kind in which no number is rounded. -/
def isReversible : Transform α → Bool
  | translate _ => true
  | rotateAround _ _ => true
  | rotateFromTo _ _ _ => true
  | _ => false

/-- The step that goes the other way. Only reversible steps have one. -/
def flipped : Transform α → Transform α
  | translate offset => translate (-offset)
  | rotateAround axis angle => rotateAround (-axis) angle
  | rotateFromTo source target anyAxis => rotateFromTo target source anyAxis
  | t => t

variable {t : Transform α} {ts : List (Transform α)}

theorem inverse_of_isReversible (h : t.isReversible = true) : t.inverse = .ok t.flipped := by
  cases t with
  | translate offset => rfl
  | rotateAround axis angle => rfl
  | rotateFromTo source target anyAxis => rfl
  | _ => cases h

theorem isReversible_flipped (t : Transform α) : t.flipped.isReversible = t.isReversible := by
  cases t <;> rfl

theorem elements_flipped (h : t.isReversible = true) : t.flipped.elements = [t.flipped] := by
  cases t with
  | chain ts => cases h
  | _ => rfl

theorem flipped_flipped (hneg : ∀ x : α, - -x = x) (t : Transform α) :
    t.flipped.flipped = t := by
  have hvec (v : Vec α) : - -v = v := Vec.ext (hneg v.x) (hneg v.y) (hneg v.z)
  cases t with
  | translate offset => exact congrArg translate (hvec offset)
  | rotateAround axis angle => exact congrArg (rotateAround · angle) (hvec axis)
  | _ => rfl

theorem undoing_of_isReversible (h : ∀ t ∈ ts, t.isReversible = true) :
    undoing ts = .ok (ts.reverse.map flipped) := by
  induction ts with
  | nil => rfl
  | cons t ts ih =>
    rw [List.forall_mem_cons] at h
    rw [← List.singleton_append, undoing_append, ih h.2, undoing_singleton,
      inverse_of_isReversible h.1, List.reverse_append, List.map_append]
    change Except.ok (ts.reverse.map flipped ++ t.flipped.elements) = _
    rw [elements_flipped h.1]
    rfl

/-- Two inversions only remove the nesting, if negating a number twice does nothing. -/
theorem inverse_inverse (hneg : ∀ x : α, - -x = x) (h : ∀ s ∈ t.singles, s.isReversible = true) :
    ∃ u v, t.inverse = .ok u ∧ u.inverse = .ok v ∧ v.elements = t.singles := by
  have hfirst : (do return (← t.inverse).elements) = Except.ok (t.singles.reverse.map flipped) := by
    rw [← undoing_elements, ← undoing_singles, undoing_of_isReversible h]
  obtain ⟨u, hu, helements⟩ := bind_ok.mp hfirst
  have hreversible : ∀ s ∈ u.elements, s.isReversible = true := by
    rw [pure_ok.mp helements, List.forall_mem_map]
    intro s hs
    rw [isReversible_flipped, h s (List.mem_reverse.mp hs)]
  have hsecond : (do return (← u.inverse).elements) = Except.ok t.singles := by
    rw [← undoing_elements, undoing_of_isReversible hreversible, pure_ok.mp helements]
    simp only [← List.map_reverse, List.reverse_reverse, List.map_map, Function.comp_def,
      flipped_flipped hneg, List.map_id']
  obtain ⟨v, hv, helements'⟩ := bind_ok.mp hsecond
  exact ⟨u, v, hu, hv, pure_ok.mp helements'⟩

end Reversible

/-- Inversion reverses composition, and the fault of the right side comes before that of the left
one. An inverse is flat and does not depend on the nesting of chains. In double precision, steps
that have an inverse of their own kind are back as they were after two inversions. -/
theorem inverse_reverses :
    (∀ a b : Transform α, (a * b).inverse = do
      let u ← b.inverse
      let v ← a.inverse
      return u * v) ∧
    (∀ t u : Transform α, t.inverse = .ok u → ∀ s ∈ u.elements, s.isChain = false) ∧
    (∀ t : Transform α, (chain t.singles).inverse = do return chain (← t.inverse).elements) ∧
    ∀ t : Transform Float, (∀ s ∈ t.singles, s.isReversible = true) →
      ∃ u v, t.inverse = .ok u ∧ u.inverse = .ok v ∧ v.elements = t.singles := by
  refine ⟨inverse_mul, fun t u h => flat_iff.mp (flat_inverse t u h), fun t => ?_,
    fun t => inverse_inverse Double.neg_neg⟩
  rw [inverse_chain, undoing_singles, undoing_elements, bind_assoc]
  simp only [pure_bind]

/-- Steps around an empty chain, two of them in a chain of their own. -/
def nestedSteps : Transform Float :=
  chain [translate ⟨1, -0, 2⟩,
    chain [rotateAround ⟨0, 0, 1⟩ 30, chain [], rotateFromTo ⟨1, 0, 0⟩ ⟨0, 1, 0⟩ true]]

theorem inverse_reverses_nestedSteps :
    (chain nestedSteps.singles).inverse = .ok (chain [rotateFromTo ⟨0, 1, 0⟩ ⟨1, 0, 0⟩ true,
      rotateAround (-⟨0, 0, 1⟩) 30, translate (-⟨1, -0, 2⟩)]) ∧
    ∃ u v, nestedSteps.inverse = .ok u ∧ u.inverse = .ok v ∧
      (∀ s ∈ u.elements, s.isChain = false) ∧
      v.elements = [translate ⟨1, -0, 2⟩, rotateAround ⟨0, 0, 1⟩ 30,
        rotateFromTo ⟨1, 0, 0⟩ ⟨0, 1, 0⟩ true] := by
  obtain ⟨-, hflat, hnesting, htwice⟩ := inverse_reverses (α := Float)
  have hreversible : ∀ s ∈ nestedSteps.singles, s.isReversible = true := by
    simp [nestedSteps, singles, singlesOf, isReversible]
  obtain ⟨u, v, hu, hv, helements⟩ := htwice nestedSteps hreversible
  exact ⟨hnesting nestedSteps, u, v, hu, hv, hflat nestedSteps u hu, helements⟩

end SolidScene.Transform
