import Mathlib.Data.List.Forall2

/-!
# Computations that may fail

What it takes for a computation of several steps to give a result, and which fault it ends with
otherwise. Proofs about results take a computation apart with `bind_ok` and do not look at faults;
proofs about faults do not look at results: the fault of a computation is that of its first step
that has one, and going through a list stops at the first fault of its entries. Two computations are
compared by running them alongside, which keeps the fault of the one that of the other. A walk that
makes something of the results of another walk is such a pair.
-/
namespace SolidScene

variable {φ β γ : Type}

/-- A step that may fail gives a result if both of its parts do. -/
theorem bind_ok {x : Except φ β} {f : β → Except φ γ} {c : γ} :
    x >>= f = .ok c ↔ ∃ b, x = .ok b ∧ f b = .ok c := by
  cases x with
  | error e => exact ⟨nofun, nofun⟩
  | ok b => exact ⟨fun h => ⟨b, rfl, h⟩, fun ⟨_, rfl, h⟩ => h⟩

theorem pure_ok {b c : β} : (pure b : Except φ β) = .ok c ↔ b = c :=
  ⟨fun h => by cases h; rfl, fun h => by rw [h]; rfl⟩

theorem exists_error_iff {x : Except φ β} : (∃ fault, x = .error fault) ↔ ¬ ∃ b, x = .ok b := by
  cases x <;> simp

/-- The fault that a computation ends with, if it gives no result. -/
def failure? : Except φ β → Option φ
  | .error fault => some fault
  | .ok _ => none

theorem failure?_eq_some {x : Except φ β} {fault : φ} :
    failure? x = some fault ↔ x = .error fault := by
  cases x <;> simp [failure?]

theorem failure?_eq_none {x : Except φ β} : failure? x = none ↔ ∃ b, x = .ok b := by
  cases x <;> simp [failure?]

section Steps

variable {x : Except φ β} {f : β → Except φ γ}

/-- A later step is only at fault if no earlier one is. -/
theorem failure?_bind {fault : Option φ} (h : ∀ b, failure? (f b) = fault) :
    failure? (x >>= f) = (failure? x).or fault := by
  cases x with
  | error e => rfl
  | ok b => exact h b

theorem failure?_return (g : β → γ) : failure? (do return g (← x)) = failure? x := by
  cases x <;> rfl

end Steps

section Entries

variable {δ : Type} {f : List β → Except φ δ} {g : β → Except φ γ} {k : β → γ → δ → δ}

/-- A walk through a list that takes each entry before the rest ends with the first fault of an
entry. -/
theorem failure?_of_cons {last : δ} (nil : f [] = .ok last)
    (cons : ∀ b bs, f (b :: bs) = do
      let c ← g b
      let rest ← f bs
      return k b c rest) (bs : List β) :
    failure? (f bs) = bs.findSome? fun b => failure? (g b) := by
  induction bs with
  | nil => rw [nil, failure?, List.findSome?_nil]
  | cons b bs ih =>
    rw [cons, failure?_bind fun c => failure?_return (k b c), ih, List.findSome?_cons]
    cases failure? (g b) <;> rfl

/-- A walk through a list that takes the rest before each entry ends with the last fault of an
entry. -/
theorem failure?_of_cons_rest {last : δ} (nil : f [] = .ok last)
    (cons : ∀ b bs, f (b :: bs) = do
      let rest ← f bs
      let c ← g b
      return k b c rest) (bs : List β) :
    failure? (f bs) = bs.reverse.findSome? fun b => failure? (g b) := by
  induction bs with
  | nil => rw [nil, failure?, List.reverse_nil, List.findSome?_nil]
  | cons b bs ih =>
    rw [cons, failure?_bind fun rest => failure?_return (k b · rest), ih, List.reverse_cons,
      List.findSome?_append, List.findSome?_singleton]

end Entries

/-- Two computations that end with the same fault, or with results that are related. -/
inductive Alongside (R : β → γ → Prop) : Except φ β → Except φ γ → Prop where
  | error (fault : φ) : Alongside R (.error fault) (.error fault)
  | ok {b : β} {c : γ} (h : R b c) : Alongside R (.ok b) (.ok c)

namespace Alongside

variable {R : β → γ → Prop} {x : Except φ β} {y : Except φ γ}

theorem refl (x : Except φ β) : Alongside Eq x x := by
  cases x with
  | error fault => exact .error fault
  | ok b => exact .ok rfl

theorem imp {S : β → γ → Prop} (h : Alongside R x y) (hRS : ∀ b c, R b c → S b c) :
    Alongside S x y := by
  cases h with
  | error fault => exact .error fault
  | ok h => exact .ok (hRS _ _ h)

theorem bind {β' γ' : Type} {S : β' → γ' → Prop} (h : Alongside R x y)
    {f : β → Except φ β'} {g : γ → Except φ γ'}
    (hsteps : ∀ b c, R b c → Alongside S (f b) (g c)) : Alongside S (x >>= f) (y >>= g) := by
  cases h with
  | error fault => exact .error fault
  | ok h => exact hsteps _ _ h

end Alongside

section Walks

variable {δ : Type}

/-- A walk through joined lists goes through each of them in turn. -/
theorem mapM_flatMap {f : γ → Except φ δ} (g : β → List γ) (bs : List β) :
    (bs.flatMap g).mapM f = do return (← bs.mapM fun b => (g b).mapM f).flatten := by
  induction bs with
  | nil => rfl
  | cons b bs ih =>
    rw [List.flatMap_cons, List.mapM_append, ih, List.mapM_cons]
    cases (g b).mapM f with
    | error fault => rfl
    | ok cs => cases bs.mapM fun b => (g b).mapM f <;> rfl

theorem alongside_mapM {f : β → Except φ γ} (g : β → γ → δ) (bs : List β) :
    Alongside (fun cs ds => List.Forall₂ (fun b c => f b = .ok c) bs cs ∧ ds = List.zipWith g bs cs)
      (bs.mapM f) (bs.mapM fun b => do return g b (← f b)) := by
  induction bs with
  | nil => exact .ok ⟨.nil, rfl⟩
  | cons b bs ih =>
    rw [List.mapM_cons, List.mapM_cons]
    cases hstep : f b with
    | error fault => exact .error fault
    | ok c =>
      refine ih.bind ?_
      rintro cs ds ⟨hrest, rfl⟩
      exact .ok ⟨.cons hstep hrest, rfl⟩

end Walks

end SolidScene
