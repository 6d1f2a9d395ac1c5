import SolidScene.Proofs.Transform.Constructed
import SolidScene.Proofs.Transform.Inverse

/-!
# Chains without chains

Composition and inversion keep chains flat: no step of a chain is a chain itself. An inverse is
flat whatever the nesting of the transform. A chain that is given as such is kept as it is, and is
flat only if it was given so.
-/
namespace SolidScene.Transform

variable {α : Type}

def isChain : Transform α → Bool
  | chain _ => true
  | _ => false

/-- The transform is no chain, or a chain of which no step is one. -/
def Flat : Transform α → Prop
  | chain steps => ∀ t ∈ steps, t.isChain = false
  | _ => True

/-- A property of all transforms, if it passes from the steps of a chain to the chain. -/
theorem induction {Q : Transform α → Prop} (single : ∀ t : Transform α, t.isChain = false → Q t)
    (chain : ∀ ts, (∀ t ∈ ts, Q t) → Q (.chain ts)) : ∀ t, Q t
  | .chain ts => chain ts fun t _ => induction single chain t
  | .translate offset => single (.translate offset) rfl
  | .rotateAround axis angle => single (.rotateAround axis angle) rfl
  | .rotateXyz angles => single (.rotateXyz angles) rfl
  | .rotateYpr yaw pitch roll => single (.rotateYpr yaw pitch roll) rfl
  | .rotateFromTo source target anyAxis => single (.rotateFromTo source target anyAxis) rfl
  | .scaleUniform factor => single (.scaleUniform factor) rfl
  | .scaleAxes factors => single (.scaleAxes factors) rfl
  | .scaleAlong axis factor => single (.scaleAlong axis factor) rfl

theorem elements_of_single {t : Transform α} (h : t.isChain = false) : t.elements = [t] := by
  cases t with
  | chain ts => cases h
  | _ => rfl

theorem singles_of_single {t : Transform α} (h : t.isChain = false) : t.singles = [t] := by
  cases t with
  | chain ts => cases h
  | _ => rfl

theorem single_of_mem_singles {s t : Transform α} : s ∈ t.singles → s.isChain = false := by
  induction t using induction with
  | single t ht =>
    rw [singles_of_single ht, List.mem_singleton]
    rintro rfl
    exact ht
  | chain ts ih =>
    rw [mem_singles_chain]
    rintro ⟨t, ht, hs⟩
    exact ih t ht hs

theorem flat_of_single {t : Transform α} (h : t.isChain = false) : t.Flat := by
  cases t with
  | chain ts => cases h
  | _ => trivial

theorem flat_iff {t : Transform α} : t.Flat ↔ ∀ s ∈ t.elements, s.isChain = false := by
  cases h : t.isChain with
  | false =>
    rw [elements_of_single h]
    exact iff_of_true (flat_of_single h) (by simpa using h)
  | true =>
    cases t with
    | chain ts => exact Iff.rfl
    | _ => cases h

theorem flat_mul {t u : Transform α} (ht : t.Flat) (hu : u.Flat) : (t * u).Flat := by
  intro s hs
  rcases List.mem_append.mp hs with hs | hs
  · exact flat_iff.mp ht s hs
  · exact flat_iff.mp hu s hs

variable [Scalar α]

theorem Constructed.singles {t : Transform α} (ht : t.Constructed) :
    ∀ s ∈ t.singles, s.Constructed := by
  induction t using induction with
  | single t hsingle =>
    rw [singles_of_single hsingle, List.forall_mem_singleton]
    exact ht
  | chain ts ih =>
    intro s hs
    obtain ⟨t, hmem, hs⟩ := mem_singles_chain.mp hs
    exact ih t hmem (ht.elements t hmem) s hs

theorem flat_inverse_of_single {t u : Transform α} (ht : t.isChain = false)
    (h : t.inverse = .ok u) : u.Flat := by
  have hturns {a b c : Transform α} (ha : a.isChain = false) (hb : b.isChain = false)
      (hc : c.isChain = false) : (a * b * c).Flat :=
    flat_mul (flat_mul (flat_of_single ha) (flat_of_single hb)) (flat_of_single hc)
  cases t with
  | chain ts => cases ht
  | translate offset =>
    cases h
    trivial
  | rotateAround axis angle =>
    cases h
    trivial
  | rotateXyz angles =>
    cases h
    exact hturns rfl rfl rfl
  | rotateYpr yaw pitch roll =>
    cases h
    exact hturns rfl rfl rfl
  | rotateFromTo source target anyAxis =>
    cases h
    trivial
  | scaleUniform factor =>
    obtain ⟨-, rfl⟩ := inverse_scaleUniform_ok.mp h
    trivial
  | scaleAxes factors =>
    obtain ⟨-, rfl⟩ := inverse_scaleAxes_ok.mp h
    trivial
  | scaleAlong axis factor =>
    obtain ⟨-, rfl⟩ := inverse_scaleAlong_ok.mp h
    trivial

theorem flat_inverse (t : Transform α) : ∀ u, t.inverse = .ok u → u.Flat := by
  induction t using induction with
  | single t ht => exact fun u => flat_inverse_of_single ht
  | chain ts ih =>
    intro u h
    obtain ⟨parts, hparts, rfl⟩ := inverse_chain_ok.mp h
    intro s hs
    obtain ⟨t, ht, back, hback, hs⟩ := mem_inverse_chain hparts hs
    exact flat_iff.mp (ih t ht back hback) s hs

end SolidScene.Transform
