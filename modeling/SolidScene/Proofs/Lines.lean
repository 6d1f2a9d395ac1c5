import SolidScene.Proofs.Listwise

/-!
# Lines

The indent in front of a line of a tree, lines without what stands before them, and lines joined to
one text. If no line has a line end in it, then the text determines the lines, also where they stand
behind an indent that has some.
-/
namespace SolidScene

/-- One indent for each level. -/
def levels (indent : String) (depth : Nat) : String := String.join (List.replicate depth indent)

theorem levels_zero (indent : String) : levels indent 0 = "" := rfl

theorem levels_succ (indent : String) (depth : Nat) :
    levels indent (depth + 1) = indent ++ levels indent depth := by
  rw [levels, List.replicate_succ, String.join_cons, levels]

theorem levels_succ_inner (indent : String) (depth : Nat) :
    levels indent (depth + 1) = levels indent depth ++ indent := by
  rw [levels, List.replicate_succ', String.join_append, String.join_cons, String.join_nil,
    String.append_empty, levels]

theorem levels_empty (depth : Nat) : levels "" depth = "" := by
  induction depth with
  | zero => rfl
  | succ depth ih => rw [levels_succ, ih, String.append_empty]

/-- What is left of a line without what stands before it. -/
def behindLead (lead line : String) : String := String.ofList (line.toList.drop lead.length)

theorem behindLead_append (lead line : String) : behindLead lead (lead ++ line) = line := by
  rw [behindLead, String.toList_append, ← String.length_toList, List.drop_left, String.ofList_toList]

theorem zipWith_behindLead {β : Type} (lead : β → String) {bs : List β} {ls : List String}
    (h : bs.length = ls.length) :
    List.zipWith (fun b l => behindLead (lead b) l) bs (List.zipWith (fun b l => lead b ++ l) bs ls) =
      ls := by
  induction bs generalizing ls with
  | nil => exact (List.length_eq_zero_iff.mp h.symm).symm
  | cons b bs ih =>
    obtain ⟨l, ls, rfl⟩ := List.exists_cons_of_length_eq_add_one h.symm
    rw [List.zipWith_cons_cons, List.zipWith_cons_cons, behindLead_append, ih (Nat.succ.inj h)]

theorem not_mem_of_mem_splitOn {c : Char} {cs : List Char} :
    ∀ line ∈ cs.splitOn c, c ∉ line := by
  induction cs with
  | nil => simp
  | cons d ds ih =>
    rw [List.splitOn_cons_eq_if_modifyHead]
    obtain ⟨first, others, hparts⟩ := List.exists_cons_of_ne_nil (List.splitOn_ne_nil c ds)
    rw [hparts] at ih ⊢
    rw [List.forall_mem_cons] at ih
    cases hd : d == c with
    | true => simpa using ih
    | false =>
      have hne : c ≠ d := fun h => by simp [h] at hd
      simpa [hne] using ih

section Joined

variable (top : String)

/-- Lines behind an indent, each on a new line. -/
def following : List String → String
  | [] => ""
  | l :: ls => "\n" ++ (top ++ (l ++ following ls))

theorem intercalate_eq_following (l : String) (ls : List String) :
    "\n".intercalate ((l :: ls).map (top ++ ·)) = top ++ (l ++ following top ls) := by
  induction ls generalizing l with
  | nil => simp [following]
  | cons m ms ih =>
    rw [List.map_cons, List.map_cons, String.intercalate_cons_cons, ← List.map_cons, ih, following,
      String.append_assoc, String.append_assoc]

theorem head_following (ls : List String) : ∀ c ∈ (following top ls).toList.head?, ¬ c ≠ '\n' := by
  cases ls with
  | nil => exact nofun
  | cons l ls =>
    rw [following, String.toList_append]
    rintro _ ⟨⟩
    exact not_not.mpr rfl

/-- A line ends at the first line end behind its indent. -/
theorem eq_of_following_eq {ls ms : List String} (hls : ∀ l ∈ ls, '\n' ∉ l.toList)
    (hms : ∀ m ∈ ms, '\n' ∉ m.toList) (h : following top ls = following top ms) : ls = ms := by
  induction ls generalizing ms with
  | nil =>
    cases ms with
    | nil => rfl
    | cons m ms => exact absurd (congrArg String.toList h) (by simp [following])
  | cons l ls ih =>
    cases ms with
    | nil => exact absurd (congrArg String.toList h) (by simp [following])
    | cons m ms =>
      rw [List.forall_mem_cons] at hls hms
      rw [following, following, String.append_right_inj, String.append_right_inj] at h
      have hchars := congrArg String.toList h
      rw [String.toList_append, String.toList_append] at hchars
      obtain ⟨hline, hrest⟩ := eq_of_append_eq_append (p := (· ≠ '\n'))
        (fun c hc hend => hls.1 (hend ▸ hc)) (fun c hc hend => hms.1 (hend ▸ hc))
        (head_following top ls) (head_following top ms) hchars
      rw [String.toList_injective hline, ih hls.2 hms.2 (String.toList_injective hrest)]

theorem eq_of_intercalate_eq {ls ms : List String} (hl : ls ≠ []) (hm : ms ≠ [])
    (hls : ∀ l ∈ ls, '\n' ∉ l.toList) (hms : ∀ m ∈ ms, '\n' ∉ m.toList)
    (h : "\n".intercalate (ls.map (top ++ ·)) = "\n".intercalate (ms.map (top ++ ·))) :
    ls = ms := by
  obtain ⟨l, ls, rfl⟩ := List.exists_cons_of_ne_nil hl
  obtain ⟨m, ms, rfl⟩ := List.exists_cons_of_ne_nil hm
  rw [intercalate_eq_following, intercalate_eq_following] at h
  exact eq_of_following_eq top hls hms (congrArg ("\n" ++ ·) h)

end Joined

end SolidScene
