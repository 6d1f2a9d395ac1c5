/-!
# Ranges of code points

A property of characters as a list of closed ranges of code points. A table of ranges carries the
proof that none is empty and that they ascend with a gap between each other, so a search may stop at
the first range that does not end before the character.
-/
namespace SolidScene.Text

/-- Whether no range is empty or starts before the bound, and each leaves a gap to the next. -/
def ascendsFrom (bound : Nat) : List (Nat × Nat) → Bool
  | [] => true
  | r :: rest => bound ≤ r.1 && r.1 ≤ r.2 && ascendsFrom (r.2 + 2) rest

theorem ascendsFrom_cons {bound : Nat} {r : Nat × Nat} {rest : List (Nat × Nat)} :
    ascendsFrom bound (r :: rest) = true ↔
      bound ≤ r.1 ∧ r.1 ≤ r.2 ∧ ascendsFrom (r.2 + 2) rest = true := by
  simp [ascendsFrom, and_assoc]

theorem le_of_mem_ascendsFrom {bound : Nat} {ranges : List (Nat × Nat)}
    (h : ascendsFrom bound ranges = true) {r : Nat × Nat} (hr : r ∈ ranges) : bound ≤ r.1 := by
  induction ranges generalizing bound with
  | nil => simp at hr
  | cons s rest ih =>
    obtain ⟨hbound, hs, hrest⟩ := ascendsFrom_cons.mp h
    rcases List.mem_cons.mp hr with rfl | hr
    · exact hbound
    · have hnext := ih hrest hr
      omega

/-- The range that holds a code point is the first that does not end before it. -/
theorem find?_of_mem_ascendsFrom {bound : Nat} {ranges : List (Nat × Nat)}
    (h : ascendsFrom bound ranges = true) {r : Nat × Nat} (hr : r ∈ ranges) {n : Nat}
    (hfirst : r.1 ≤ n) (hlast : n ≤ r.2) : ranges.find? (fun s => n ≤ s.2) = some r := by
  induction ranges generalizing bound with
  | nil => simp at hr
  | cons s rest ih =>
    obtain ⟨-, -, hrest⟩ := ascendsFrom_cons.mp h
    rcases List.mem_cons.mp hr with rfl | hr
    · exact List.find?_cons_of_pos (by simpa using hlast)
    · -- the bound for the rest puts the start of `r`, and so the code point, behind the end of `s`
      have hnext := le_of_mem_ascendsFrom hrest hr
      have hpassed : ¬ n ≤ s.2 := by omega
      rw [List.find?_cons_of_neg (by simpa using hpassed)]
      exact ih hrest hr

/-- The first and the last code point of each range. -/
structure CodeRanges where
  ranges : List (Nat × Nat)
  ascending : ascendsFrom 0 ranges = true

namespace CodeRanges

instance : Membership Char CodeRanges where
  mem table c := ∃ r ∈ table.ranges, r.1 ≤ c.toNat ∧ c.toNat ≤ r.2

/-- Whether the first range that does not end before a character holds it. -/
def holds (table : CodeRanges) (c : Char) : Bool :=
  (table.ranges.find? fun r => c.toNat ≤ r.2).any fun r => r.1 ≤ c.toNat

theorem holds_iff {table : CodeRanges} {c : Char} : table.holds c = true ↔ c ∈ table := by
  simp only [holds, Option.any_eq_true, decide_eq_true_eq]
  constructor
  · rintro ⟨r, hfind, hfirst⟩
    exact ⟨r, List.mem_of_find?_eq_some hfind, hfirst, by simpa using List.find?_some hfind⟩
  · rintro ⟨r, hr, hfirst, hlast⟩
    exact ⟨r, find?_of_mem_ascendsFrom table.ascending hr hfirst hlast, hfirst⟩

instance (table : CodeRanges) (c : Char) : Decidable (c ∈ table) := decidable_of_iff _ holds_iff

end CodeRanges

end SolidScene.Text
