import SolidScene.Proofs.Solid.Parts
import SolidScene.Proofs.Transform.Flat

/-!
# Normal form of solids

No solid is placed twice in a row, and combinations do not nest without need: those of union and
intersection have at least two parts and none of their own kind, and a difference is nested on the
left only where a difference is taken away from it. The operators keep this form. Combinations that
are given as lists of parts need not have it.
-/
namespace SolidScene

variable {α : Type}

namespace Solid

def isPlaced : Solid α → Bool
  | placed _ _ => true
  | _ => false

end Solid

/-- What parts a combination has in normal form. -/
def Combinator.Admits : Combinator → List (Solid α) → Prop
  | difference, first :: second :: others =>
    (first.isCombined .difference = true → second.isCombined .difference = true) ∧
      ∀ p ∈ others, p.isCombined .difference = false
  | difference, _ => False
  | kind, parts => 2 ≤ parts.length ∧ ∀ p ∈ parts, p.isCombined kind = false

namespace Solid

/-- The form that operators keep, throughout the solid. -/
inductive Normal : Solid α → Prop where
  | primitive (shape : Primitive α) : Normal (primitive shape)
  | placed {t : Transform α} {s : Solid α} (ht : t.Flat) (hs : Normal s)
    (hplaced : s.isPlaced = false) : Normal (placed t s)
  | combined {kind : Combinator} {parts : List (Solid α)} (hadmits : kind.Admits parts)
    (hparts : ∀ p ∈ parts, Normal p) : Normal (combined kind parts)

theorem normal_of_mem {kind : Combinator} {ps : List (Solid α)} (h : (combined kind ps).Normal) :
    ∀ p ∈ ps, p.Normal := by
  cases h with
  | combined _ hparts => exact hparts

theorem admits_of_normal {kind : Combinator} {ps : List (Solid α)}
    (h : (combined kind ps).Normal) : kind.Admits ps := by
  cases h with
  | combined hadmits _ => exact hadmits

theorem normal_parts {s : Solid α} (hs : s.Normal) (kind : Combinator) :
    ∀ p ∈ s.parts kind, p.Normal := by
  rcases parts_cases kind s with hcombined | ⟨-, hparts⟩
  · rw [hcombined] at hs
    exact normal_of_mem hs
  · rw [hparts]
    simpa using hs

section Merging

variable {kind : Combinator} (hkind : kind ≠ .difference)
include hkind

theorem admits_iff {ps : List (Solid α)} :
    kind.Admits ps ↔ 2 ≤ ps.length ∧ ∀ p ∈ ps, p.isCombined kind = false := by
  cases kind with
  | difference => exact absurd rfl hkind
  | union => exact Iff.rfl
  | intersection => exact Iff.rfl

/-- What a solid in normal form contributes is at least one part, and of another kind. -/
theorem parts_of_normal {s : Solid α} (hs : s.Normal) :
    1 ≤ (s.parts kind).length ∧ ∀ p ∈ s.parts kind, p.isCombined kind = false := by
  rcases parts_cases kind s with hcombined | ⟨hother, hparts⟩
  · rw [hcombined] at hs
    obtain ⟨hlength, hothers⟩ := (admits_iff hkind).mp (admits_of_normal hs)
    exact ⟨by omega, hothers⟩
  · rw [hparts]
    simpa using hother

theorem normal_merge {a b : Solid α} (ha : a.Normal) (hb : b.Normal) :
    (merge kind a b).Normal := by
  obtain ⟨hlengtha, hothera⟩ := parts_of_normal hkind ha
  obtain ⟨hlengthb, hotherb⟩ := parts_of_normal hkind hb
  rw [merge_eq]
  refine .combined ((admits_iff hkind).mpr ⟨?_, ?_⟩) ?_
  · rw [List.length_append]
    omega
  · exact List.forall_mem_append.mpr ⟨hothera, hotherb⟩
  · exact List.forall_mem_append.mpr ⟨normal_parts ha kind, normal_parts hb kind⟩

end Merging

theorem normal_add {a b : Solid α} (ha : a.Normal) (hb : b.Normal) : (a + b).Normal :=
  normal_merge (by decide) ha hb

theorem normal_mul {a b : Solid α} (ha : a.Normal) (hb : b.Normal) : (a * b).Normal :=
  normal_merge (by decide) ha hb

/-- A solid that is no difference may be taken away from a difference in normal form. -/
theorem admits_append {ps : List (Solid α)} (h : Combinator.difference.Admits ps) {b : Solid α}
    (hb : b.isCombined .difference = false) : Combinator.difference.Admits (ps ++ [b]) := by
  match ps, h with
  | first :: second :: others, ⟨hfirst, hothers⟩ =>
    exact ⟨hfirst, List.forall_mem_append.mpr ⟨hothers, by simpa using hb⟩⟩

theorem normal_sub {a b : Solid α} (ha : a.Normal) (hb : b.Normal) : (a - b).Normal := by
  have hpair : ∀ p ∈ [a, b], p.Normal := by simp [ha, hb]
  rw [sub_eq]
  cases hkind : b.isCombined .difference with
  | true =>
    rw [if_pos rfl]
    exact .combined ⟨fun _ => hkind, nofun⟩ hpair
  | false =>
    rw [if_neg Bool.false_ne_true]
    refine .combined ?_ (List.forall_mem_append.mpr ⟨normal_parts ha _, by simpa using hb⟩)
    rcases parts_cases .difference a with hcombined | ⟨hother, hparts⟩
    · rw [hcombined] at ha
      exact admits_append (admits_of_normal ha) hkind
    · rw [hparts]
      exact ⟨fun hfirst => absurd hfirst (by simp [hother]), nofun⟩

/-- A placed solid takes the transform into its own, so that the solid in it stays as it is. -/
theorem normal_place {t : Transform α} {s : Solid α} (ht : t.Flat) (hs : s.Normal) :
    (t * s).Normal := by
  cases hs with
  | primitive shape => exact .placed ht (.primitive shape) rfl
  | placed hu hs hplaced => exact .placed (Transform.flat_mul ht hu) hs hplaced
  | combined hadmits hparts => exact .placed ht (.combined hadmits hparts) rfl

end Solid

end SolidScene
