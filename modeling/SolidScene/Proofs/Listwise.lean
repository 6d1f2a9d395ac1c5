import Mathlib.Data.List.Forall2

/-!
# Lists taken entry by entry

Trees with lists of subtrees are walked by pairs of functions, of which the second one goes through
a list. Such a second function is a map or a concatenation of images, which is all that proofs
about trees need of it. The first entry of a walk that has some mark is found in the first image
that has one, and the last entry by the walk from the back.
-/
namespace SolidScene

variable {β γ δ : Type*}

theorem eq_map_of_cons {f : List β → List γ} {g : β → γ} (nil : f [] = [])
    (cons : ∀ b bs, f (b :: bs) = g b :: f bs) (bs : List β) : f bs = bs.map g := by
  induction bs with
  | nil => exact nil
  | cons b bs ih => rw [cons, ih, List.map_cons]

theorem eq_flatMap_of_cons {f : List β → List γ} {g : β → List γ} (nil : f [] = [])
    (cons : ∀ b bs, f (b :: bs) = g b ++ f bs) (bs : List β) : f bs = bs.flatMap g := by
  induction bs with
  | nil => exact nil
  | cons b bs ih => rw [cons, ih, List.flatMap_cons]

/-- A test that goes through two lists together tests their entries. -/
theorem related_of_cons {f : List β → List γ → Bool} {g : β → γ → Bool}
    (left : ∀ b bs, f (b :: bs) [] = false) (right : ∀ c cs, f [] (c :: cs) = false)
    (cons : ∀ b bs c cs, f (b :: bs) (c :: cs) = (g b c && f bs cs)) {bs : List β} {cs : List γ}
    (h : f bs cs = true) : List.Forall₂ (fun b c => g b c = true) bs cs := by
  induction bs generalizing cs with
  | nil =>
    cases cs with
    | nil => exact .nil
    | cons c cs => rw [right] at h; cases h
  | cons b bs ih =>
    cases cs with
    | nil => rw [left] at h; cases h
    | cons c cs =>
      rw [cons, Bool.and_eq_true] at h
      exact .cons h.1 (ih h.2)

/-- A test that goes through two lists together holds if it holds of their entries. -/
theorem of_related {f : List β → List γ → Bool} {g : β → γ → Bool} (nil : f [] [] = true)
    (cons : ∀ b bs c cs, f (b :: bs) (c :: cs) = (g b c && f bs cs)) {bs : List β} {cs : List γ}
    (h : List.Forall₂ (fun b c => g b c = true) bs cs) : f bs cs = true := by
  induction h with
  | nil => exact nil
  | cons hentry _ ih => rw [cons, hentry, ih, Bool.and_self]

theorem related_of_map_eq {R : β → γ → Prop} {f : β → δ} {g : γ → δ} {bs : List β} {cs : List γ}
    (h : bs.map f = cs.map g) (hR : ∀ b ∈ bs, ∀ c ∈ cs, f b = g c → R b c) :
    List.Forall₂ R bs cs := by
  induction bs generalizing cs with
  | nil =>
    obtain rfl := List.map_eq_nil_iff.mp h.symm
    exact .nil
  | cons b bs ih =>
    obtain ⟨c, cs, rfl, hentry, hrest⟩ := List.map_eq_cons_iff.mp h.symm
    exact .cons (hR b List.mem_cons_self c List.mem_cons_self hentry.symm)
      (ih hrest.symm fun b hb c hc =>
        hR b (List.mem_cons_of_mem _ hb) c (List.mem_cons_of_mem _ hc))

theorem findSome?_flatMap (p : γ → Option δ) (f : β → List γ) (bs : List β) :
    (bs.flatMap f).findSome? p = bs.findSome? fun b => (f b).findSome? p := by
  induction bs with
  | nil => rfl
  | cons b bs ih =>
    rw [List.flatMap_cons, List.findSome?_append, ih, List.findSome?_cons]
    cases (f b).findSome? p <;> rfl

theorem findSome?_congr {p q : β → Option γ} {bs : List β} (h : ∀ b ∈ bs, p b = q b) :
    bs.findSome? p = bs.findSome? q := by
  rw [← List.head?_filterMap, List.filterMap_congr h, List.head?_filterMap]

/-- The search from the back finds the last entry that has a mark. -/
theorem findSome?_reverse_eq_some_iff {p : β → Option γ} {bs : List β} {c : γ} :
    bs.reverse.findSome? p = some c ↔
      ∃ before b after, bs = before ++ b :: after ∧ p b = some c ∧ ∀ d ∈ after, p d = none := by
  rw [List.findSome?_eq_some_iff]
  constructor
  · rintro ⟨after, b, before, hsplit, hmark, hnone⟩
    refine ⟨before.reverse, b, after.reverse, ?_, hmark, by simpa using hnone⟩
    rw [← List.reverse_reverse bs, hsplit]
    simp
  · rintro ⟨before, b, after, rfl, hmark, hnone⟩
    exact ⟨after.reverse, b, before.reverse, by simp, hmark, by simpa using hnone⟩

/-- What is related entry by entry is related at every entry. -/
theorem related_of_mem {R : β → γ → Prop} {bs : List β} {cs : List γ}
    (h : List.Forall₂ R bs cs) {b : β} (hb : b ∈ bs) : ∃ c, R b c := by
  induction h with
  | nil => cases hb
  | cons hr _ ih =>
    rcases List.mem_cons.mp hb with rfl | hb
    · exact ⟨_, hr⟩
    · exact ih hb

/-- Every entry on the right is there for one on the left. -/
theorem exists_of_related {R : β → γ → Prop} {bs : List β} {cs : List γ}
    (h : List.Forall₂ R bs cs) {c : γ} (hc : c ∈ cs) : ∃ b ∈ bs, R b c := by
  induction h with
  | nil => cases hc
  | @cons b _ _ _ hr _ ih =>
    rcases List.mem_cons.mp hc with rfl | hc
    · exact ⟨b, List.mem_cons_self, hr⟩
    · obtain ⟨b, hb, hr⟩ := ih hc
      exact ⟨b, List.mem_cons_of_mem _ hb, hr⟩

/-- A relation of entries may make use of where the left one comes from. -/
theorem related_imp {R S : β → γ → Prop} {bs : List β} {cs : List γ} (h : List.Forall₂ R bs cs)
    (hS : ∀ b ∈ bs, ∀ c, R b c → S b c) : List.Forall₂ S bs cs :=
  ((List.forall₂_and_left bs cs).mpr ⟨hS, h⟩).imp fun _ c ⟨hentry, hr⟩ => hentry c hr

/-- Lists are related in the same way if their entries are. -/
theorem related_congr {R S : β → γ → Prop} {bs : List β} {cs : List γ}
    (h : ∀ b ∈ bs, ∀ c, R b c ↔ S b c) : List.Forall₂ R bs cs ↔ List.Forall₂ S bs cs :=
  ⟨fun hR => related_imp hR fun b hb c => (h b hb c).mp,
    fun hS => related_imp hS fun b hb c => (h b hb c).mpr⟩

/-- Where a run of entries with a property ends, if what follows starts with none. -/
theorem eq_of_append_eq_append {p : β → Prop} {as as' bs bs' : List β} (has : ∀ a ∈ as, p a)
    (has' : ∀ a ∈ as', p a) (hbs : ∀ b ∈ bs.head?, ¬ p b) (hbs' : ∀ b ∈ bs'.head?, ¬ p b)
    (h : as ++ bs = as' ++ bs') : as = as' ∧ bs = bs' := by
  induction as generalizing as' with
  | nil =>
    cases as' with
    | nil => exact ⟨rfl, h⟩
    | cons a' as' => exact absurd (has' a' (by simp)) (hbs a' (by simp [show bs = _ from h]))
  | cons a as ih =>
    cases as' with
    | nil => exact absurd (has a (by simp)) (hbs' a (by simp [show bs' = _ from h.symm]))
    | cons a' as' =>
      rw [List.forall_mem_cons] at has has'
      obtain ⟨rfl, hrest⟩ := List.cons.inj h
      obtain ⟨rfl, rfl⟩ := ih has.2 has'.2 hrest
      exact ⟨rfl, rfl⟩

theorem related_map {ε : Type*} {R : β → γ → Prop} {S : δ → ε → Prop} {f : γ → δ} {g : β → ε}
    {bs : List β} {cs : List γ} (h : List.Forall₂ R bs cs)
    (hS : ∀ b ∈ bs, ∀ c, R b c → S (f c) (g b)) : List.Forall₂ S (cs.map f) (bs.map g) := by
  induction h with
  | nil => exact .nil
  | cons hr _ ih =>
    exact .cons (hS _ List.mem_cons_self _ hr) (ih fun b hb => hS b (List.mem_cons_of_mem _ hb))

end SolidScene
