import Mathlib.Data.Set.Lattice
import SolidScene.Proofs.Listwise
import SolidScene.Proofs.Solid.Parts
import SolidScene.Scalar.Double

/-!
# What solids mean

A solid is a set of points as soon as primitives are sets of points and single transforms are maps
of points. Nothing is assumed about either, so what holds here holds of every geometry. A
combination of no solids means nothing for union and for difference, and all of space for
intersection.
-/
namespace SolidScene

variable {α : Type} {P : Type*}

/-- A set of points for each primitive, and a map of points for each transform that is no chain. -/
structure Interpretation (α : Type) (P : Type*) where
  shape : Primitive α → Set P
  move : Transform α → P → P

namespace Transform

variable (I : Interpretation α P)

mutual

/-- The map of a transform. The steps of a chain act from last to first. -/
def act : Transform α → P → P
  | chain steps => actEach steps
  | t => I.move t

def actEach : List (Transform α) → P → P
  | [] => id
  | t :: ts => act t ∘ actEach ts

end

theorem actEach_append (ts us : List (Transform α)) :
    actEach I (ts ++ us) = actEach I ts ∘ actEach I us := by
  induction ts with
  | nil => rfl
  | cons t ts ih => rw [List.cons_append, actEach, actEach, ih, Function.comp_assoc]

theorem actEach_elements (t : Transform α) : actEach I t.elements = t.act I := by
  cases t <;> simp [elements, actEach, act]

theorem act_mul (t u : Transform α) : (t * u).act I = t.act I ∘ u.act I := by
  rw [← actEach_elements I t, ← actEach_elements I u, ← actEach_append]
  exact act.eq_1 I _

end Transform

namespace Combinator

/-- What a combination makes of sets of points. -/
def region : Combinator → List (Set P) → Set P
  | union, As => ⋃ A ∈ As, A
  | intersection, As => ⋂ A ∈ As, A
  | difference, [] => ∅
  | difference, A :: As => A \ ⋃ B ∈ As, B

/-- A further set is taken away from a difference of at least one. -/
theorem region_difference_append {As : List (Set P)} (h : As ≠ []) (B : Set P) :
    difference.region (As ++ [B]) = difference.region As \ B := by
  obtain ⟨A, As, rfl⟩ := List.exists_cons_of_ne_nil h
  ext p
  simp only [List.cons_append, region, Set.mem_sdiff, Set.mem_iUnion, List.mem_append,
    List.mem_singleton]
  constructor
  · rintro ⟨hA, hout⟩
    exact ⟨⟨hA, fun ⟨C, hC, hp⟩ => hout ⟨C, .inl hC, hp⟩⟩, fun hp => hout ⟨B, .inr rfl, hp⟩⟩
  · rintro ⟨⟨hA, hout⟩, hB⟩
    refine ⟨hA, ?_⟩
    rintro ⟨C, hC | rfl, hp⟩
    · exact hout ⟨C, hC, hp⟩
    · exact hB hp

end Combinator

namespace Solid

variable (I : Interpretation α P)

mutual

/-- The points of a solid. -/
def meaning : Solid α → Set P
  | primitive p => I.shape p
  | placed t s => t.act I '' s.meaning
  | combined kind parts => kind.region (meanings parts)

def meanings : List (Solid α) → List (Set P)
  | [] => []
  | s :: rest => s.meaning :: meanings rest

end

theorem meanings_eq_map (solids : List (Solid α)) : meanings I solids = solids.map (meaning I) :=
  eq_map_of_cons rfl (fun _ _ => rfl) solids

theorem meaning_combined (kind : Combinator) (ps : List (Solid α)) :
    (combined kind ps).meaning I = kind.region (ps.map (meaning I)) := by
  rw [meaning, meanings_eq_map]

theorem mem_meaning_union {ps : List (Solid α)} {p : P} :
    p ∈ (union ps).meaning I ↔ ∃ s ∈ ps, p ∈ s.meaning I := by
  simp [union, meaning_combined, Combinator.region]

theorem mem_meaning_intersection {ps : List (Solid α)} {p : P} :
    p ∈ (intersection ps).meaning I ↔ ∀ s ∈ ps, p ∈ s.meaning I := by
  simp [intersection, meaning_combined, Combinator.region]

/-- A point is in a solid if it is in one of its parts as a union. -/
theorem exists_mem_parts {s : Solid α} {p : P} :
    (∃ q ∈ s.parts .union, p ∈ q.meaning I) ↔ p ∈ s.meaning I := by
  rcases parts_cases .union s with hs | ⟨-, hparts⟩
  · rw [hs, parts_of_combined]
    exact (mem_meaning_union I).symm
  · simp [hparts]

theorem forall_mem_parts {s : Solid α} {p : P} :
    (∀ q ∈ s.parts .intersection, p ∈ q.meaning I) ↔ p ∈ s.meaning I := by
  rcases parts_cases .intersection s with hs | ⟨-, hparts⟩
  · rw [hs, parts_of_combined]
    exact (mem_meaning_intersection I).symm
  · simp [hparts]

theorem meaning_add (a b : Solid α) : (a + b).meaning I = a.meaning I ∪ b.meaning I := by
  ext p
  rw [add_eq, mem_meaning_union, Set.mem_union, ← exists_mem_parts, ← exists_mem_parts I (s := b)]
  simp only [List.mem_append, or_and_right, exists_or]

theorem meaning_mul (a b : Solid α) : (a * b).meaning I = a.meaning I ∩ b.meaning I := by
  ext p
  rw [mul_eq, mem_meaning_intersection, Set.mem_inter_iff, ← forall_mem_parts,
    ← forall_mem_parts I (s := b), List.forall_mem_append]

theorem meaning_sum (solids : List (Solid α)) :
    (sum solids).meaning I = Combinator.union.region (solids.map (meaning I)) := by
  ext p
  rw [sum_eq, ← meaning_combined]
  change _ ↔ p ∈ (union solids).meaning I
  simp only [mem_meaning_union, List.mem_flatMap]
  constructor
  · rintro ⟨q, ⟨s, hs, hq⟩, hp⟩
    exact ⟨s, hs, (exists_mem_parts I).mp ⟨q, hq, hp⟩⟩
  · rintro ⟨s, hs, hp⟩
    obtain ⟨q, hq, hp⟩ := (exists_mem_parts I).mpr hp
    exact ⟨q, ⟨s, hs, hq⟩, hp⟩

theorem meaning_product (solids : List (Solid α)) :
    (product solids).meaning I = Combinator.intersection.region (solids.map (meaning I)) := by
  ext p
  rw [product_eq, ← meaning_combined]
  change _ ↔ p ∈ (intersection solids).meaning I
  simp only [mem_meaning_intersection, List.mem_flatMap]
  constructor
  · intro h s hs
    exact (forall_mem_parts I).mp fun q hq => h q ⟨s, hs, hq⟩
  · rintro h q ⟨s, hs, hq⟩
    exact (forall_mem_parts I).mpr (h s hs) q hq

/-- A placed solid is the image, also when the transform joins another one. -/
theorem meaning_place (t : Transform α) (s : Solid α) :
    (t * s).meaning I = t.act I '' s.meaning I := by
  cases s with
  | placed u s =>
    change (placed (t * u) s).meaning I = _
    rw [meaning, meaning, Transform.act_mul, Set.image_comp]
  | primitive p => rfl
  | combined k ps => rfl

theorem meaning_difference_pair (a b : Solid α) :
    (difference [a, b]).meaning I = a.meaning I \ b.meaning I := by
  simp [difference, meaning_combined, Combinator.region]

/-- Taking away is set difference from anything but the difference of no solids. -/
theorem meaning_sub_of_ne_empty {a : Solid α} (ha : a ≠ empty .difference) (b : Solid α) :
    (a - b).meaning I = a.meaning I \ b.meaning I := by
  rw [sub_eq]
  split
  · exact meaning_difference_pair I a b
  · rcases parts_cases .difference a with hs | ⟨-, hparts⟩
    · have hne : a.parts .difference ≠ [] := by
        intro h
        rw [h] at hs
        exact ha hs
      have hmap : (a.parts .difference).map (meaning I) ≠ [] := by simpa using hne
      have hmeaning : a.meaning I = Combinator.difference.region
          ((a.parts .difference).map (meaning I)) := by
        conv_lhs => rw [hs]
        exact meaning_combined I _ _
      rw [difference, meaning_combined, List.map_append, List.map_singleton,
        Combinator.region_difference_append hmap, hmeaning]
    · rw [hparts]
      exact meaning_difference_pair I a b

/-- The difference of no solids takes in its first subtrahend as what is taken away from. -/
theorem meaning_empty_sub {b : Solid α} (hb : b.isCombined .difference = false) :
    (empty .difference - b).meaning I = b.meaning I := by
  rw [sub_eq, hb]
  simp [empty, parts, difference, meaning_combined, Combinator.region]

theorem meaning_empty_difference : (empty .difference : Solid α).meaning I = ∅ := rfl

/-- Taking away is set difference except for one thing: taken away from the difference of no
solids, a solid that is no difference becomes the whole result. -/
theorem meaning_sub_iff (a b : Solid α) :
    (a - b).meaning I = a.meaning I \ b.meaning I ↔
      ¬ (a = empty .difference ∧ b.isCombined .difference = false ∧ (b.meaning I).Nonempty) := by
  constructor
  · rintro h ⟨rfl, hb, hne⟩
    rw [meaning_empty_sub I hb, meaning_empty_difference, Set.empty_sdiff] at h
    exact hne.ne_empty h
  · intro h
    by_cases ha : a = empty .difference
    · subst ha
      cases hb : b.isCombined .difference with
      | true => rw [sub_eq, hb, if_pos rfl, meaning_difference_pair]
      | false =>
        have hempty : b.meaning I = ∅ :=
          Set.not_nonempty_iff_eq_empty.mp fun hne => h ⟨rfl, hb, hne⟩
        rw [meaning_empty_sub I hb, hempty, meaning_empty_difference, Set.empty_sdiff]
    · exact meaning_sub_of_ne_empty I ha b

/-- The interpretation by one point, which every primitive holds. -/
def onePoint : Interpretation Float Unit := ⟨fun _ => Set.univ, fun _ => id⟩

theorem meaning_empty_sub_cube :
    (empty .difference - (cube (1 : Float)).value).meaning onePoint ≠
      (empty .difference).meaning onePoint \ (cube (1 : Float)).value.meaning onePoint := by
  rw [meaning_empty_sub onePoint rfl, meaning_empty_difference, Set.empty_sdiff]
  exact Set.univ_nonempty.ne_empty

end Solid

end SolidScene
