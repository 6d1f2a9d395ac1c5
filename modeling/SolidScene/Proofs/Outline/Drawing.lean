import SolidScene.Outline
import SolidScene.Proofs.Lines

/-!
# Reading a drawing

The drawing of a tree determines the tree, whatever its labels say: the lines of a child go on as
long as they start with the branch that its siblings hang on. If no label has a line end in it, then
the lines can be told apart in the joined text, which determines the tree as well.
-/
namespace SolidScene.Outline

/-- A property of all trees, if it passes from the children of a node to the node. -/
theorem induction {Q : Outline → Prop}
    (node : ∀ label children, (∀ c ∈ children, Q c) → Q (.node label children)) : ∀ t, Q t
  | .node label children => node label children fun c _ => induction node c

theorem drawing_eq (t : Outline) : t.drawing = t.label :: drawings t.children := by
  cases t
  rfl

theorem map_append_injective (s : String) : Function.Injective (List.map (s ++ ·)) :=
  List.map_injective_iff.mpr fun _ _ => (String.append_right_inj s).mp

theorem behind_injective (first rest : String) : Function.Injective (behind first rest) := by
  intro ls ms h
  cases ls with
  | nil =>
    cases ms with
    | nil => rfl
    | cons m ms => cases h
  | cons l ls =>
    cases ms with
    | nil => cases h
    | cons m ms =>
      obtain ⟨hfirst, hrest⟩ := List.cons.inj h
      rw [(String.append_right_inj first).mp hfirst, map_append_injective rest hrest]

/-- A line below a node that has siblings after it. -/
def IsBelow (line : String) : Prop := ∃ rest, line = "|   " ++ rest

theorem not_isBelow_last (line : String) : ¬ IsBelow ("'-- " ++ line) := by
  rintro ⟨rest, h⟩
  simpa using congrArg String.toList h

theorem not_isBelow_first (line : String) : ¬ IsBelow ("|-- " ++ line) := by
  rintro ⟨rest, h⟩
  simpa using congrArg String.toList h

theorem first_ne_last (line line' : String) : "|-- " ++ line ≠ "'-- " ++ line' := by
  intro h
  simpa using congrArg String.toList h

theorem drawings_last (c : Outline) :
    drawings [c] = ("'-- " ++ c.label) :: (drawings c.children).map ("    " ++ ·) := by
  rw [drawings, drawing_eq, behind]

theorem drawings_cons_cons (c d : Outline) (cs : List Outline) :
    drawings (c :: d :: cs) = ("|-- " ++ c.label) ::
      ((drawings c.children).map ("|   " ++ ·) ++ drawings (d :: cs)) := by
  rw [drawings, drawing_eq, behind, List.cons_append]

theorem drawings_eq_nil {cs : List Outline} : drawings cs = [] ↔ cs = [] := by
  match cs with
  | [] => exact iff_of_true rfl rfl
  | [c] => simp only [drawings_last, reduceCtorEq]
  | c :: d :: cs => simp only [drawings_cons_cons, reduceCtorEq]

/-- The first line of a row of children starts a child. -/
theorem not_isBelow_head (cs : List Outline) : ∀ line ∈ (drawings cs).head?, ¬ IsBelow line := by
  match cs with
  | [] => exact nofun
  | [c] =>
    rw [drawings_last]
    rintro _ ⟨⟩
    exact not_isBelow_last _
  | c :: d :: cs =>
    rw [drawings_cons_cons]
    rintro _ ⟨⟩
    exact not_isBelow_first _

theorem drawings_injective : ∀ {cs ds : List Outline},
    (∀ c ∈ cs, ∀ d, c.drawing = d.drawing → c = d) → drawings cs = drawings ds → cs = ds
  | [], _, _, h => (drawings_eq_nil.mp h.symm).symm
  | _ :: _, [], _, h => drawings_eq_nil.mp h
  | [c], [d], hcs, h => by rw [hcs c (by simp) d (behind_injective _ _ h)]
  | [c], d :: d' :: ds, _, h => by
    rw [drawings_last, drawings_cons_cons] at h
    exact absurd (List.cons.inj h).1.symm (first_ne_last _ _)
  | c :: c' :: cs, [d], _, h => by
    rw [drawings_last, drawings_cons_cons] at h
    exact absurd (List.cons.inj h).1 (first_ne_last _ _)
  | c :: c' :: cs, d :: d' :: ds, hcs, h => by
    rw [drawings_cons_cons, drawings_cons_cons] at h
    obtain ⟨hlabel, hlines⟩ := List.cons.inj h
    -- The lines of the first child end where a line starts another child.
    obtain ⟨hfirst, hrest⟩ := eq_of_append_eq_append (p := IsBelow)
      (List.forall_mem_map.mpr fun line _ => ⟨line, rfl⟩)
      (List.forall_mem_map.mpr fun line _ => ⟨line, rfl⟩)
      (not_isBelow_head _) (not_isBelow_head _) hlines
    have hdrawing : c.drawing = d.drawing := by
      rw [drawing_eq, drawing_eq, (String.append_right_inj _).mp hlabel,
        map_append_injective _ hfirst]
    rw [List.forall_mem_cons] at hcs
    rw [hcs.1 d hdrawing, drawings_injective hcs.2 hrest]

theorem drawing_injective : Function.Injective drawing := by
  intro t
  induction t using induction with
  | node label children ih =>
    intro u h
    cases u with
    | node label' children' =>
      obtain ⟨rfl, hchildren⟩ := List.cons.inj h
      rw [drawings_injective ih hchildren]

/-! ## Text -/

mutual

/-- The labels of a tree in pre-order. -/
def labels : Outline → List String
  | node label children => label :: labelsOf children

def labelsOf : List Outline → List String
  | [] => []
  | c :: cs => c.labels ++ labelsOf cs

end

theorem labelsOf_eq_flatMap (cs : List Outline) : labelsOf cs = cs.flatMap labels :=
  eq_flatMap_of_cons rfl (fun _ _ => rfl) cs

/-- No label has a line end in it. -/
def OneLined (t : Outline) : Prop := ∀ label ∈ t.labels, '\n' ∉ label.toList

theorem oneLined_node {label : String} {cs : List Outline} :
    (node label cs).OneLined ↔ '\n' ∉ label.toList ∧ ∀ c ∈ cs, c.OneLined := by
  simp only [OneLined, labels, labelsOf_eq_flatMap, List.forall_mem_cons, List.mem_flatMap,
    forall_exists_index, and_imp]
  exact and_congr_right fun _ =>
    ⟨fun h c hc l hl => h l c hc hl, fun h l c hc hl => h c hc l hl⟩

/-- What leads to the lines of a child. -/
def branches : List String := ["'-- ", "    ", "|-- ", "|   "]

theorem mem_behind {first rest line : String} {ls : List String} (h : line ∈ behind first rest ls) :
    ∃ branch ∈ [first, rest], ∃ l ∈ ls, line = branch ++ l := by
  cases ls with
  | nil => cases h
  | cons l ls =>
    rcases List.mem_cons.mp h with rfl | h
    · exact ⟨first, by simp, l, by simp, rfl⟩
    · obtain ⟨m, hm, rfl⟩ := List.mem_map.mp h
      exact ⟨rest, by simp, m, by simp [hm], rfl⟩

theorem mem_drawings {line : String} : ∀ {cs : List Outline}, line ∈ drawings cs →
    ∃ branch ∈ branches, ∃ c ∈ cs, ∃ l ∈ c.drawing, line = branch ++ l
  | [], h => nomatch h
  | [c], h => by
    obtain ⟨branch, hbranch, l, hl, rfl⟩ := mem_behind h
    have hsub : ["'-- ", "    "] ⊆ branches := by decide
    exact ⟨branch, hsub hbranch, c, List.mem_cons_self, l, hl, rfl⟩
  | c :: d :: cs, h => by
    rcases List.mem_append.mp h with h | h
    · obtain ⟨branch, hbranch, l, hl, rfl⟩ := mem_behind h
      have hsub : ["|-- ", "|   "] ⊆ branches := by decide
      exact ⟨branch, hsub hbranch, c, List.mem_cons_self, l, hl, rfl⟩
    · obtain ⟨branch, hbranch, e, he, l, hl, rfl⟩ := mem_drawings h
      exact ⟨branch, hbranch, e, List.mem_cons_of_mem c he, l, hl, rfl⟩

theorem OneLined.drawing {t : Outline} : t.OneLined → ∀ line ∈ t.drawing, '\n' ∉ line.toList := by
  induction t using induction with
  | node label children ih =>
    intro h line hline
    obtain ⟨hlabel, hchildren⟩ := oneLined_node.mp h
    rcases List.mem_cons.mp hline with rfl | hline
    · exact hlabel
    · obtain ⟨branch, hbranch, c, hc, l, hl, rfl⟩ := mem_drawings hline
      have hclean : ∀ branch ∈ branches, '\n' ∉ branch.toList := by decide
      rw [String.toList_append, List.mem_append]
      exact not_or.mpr ⟨hclean branch hbranch, ih c hc (hchildren c hc) l hl⟩

theorem drawing_ne_nil (t : Outline) : t.drawing ≠ [] := by
  rw [drawing_eq]
  exact List.cons_ne_nil _ _

/-- Joined drawings are told apart behind every indent, also one with line ends in it. -/
theorem OneLined.format_injective {t u : Outline} (ht : t.OneLined) (hu : u.OneLined) {top : String}
    (h : t.format none top = u.format none top) : t = u :=
  drawing_injective (eq_of_intercalate_eq top t.drawing_ne_nil u.drawing_ne_nil ht.drawing
    hu.drawing h)

theorem OneLined.text_injective {t u : Outline} (ht : t.OneLined) (hu : u.OneLined)
    (h : t.text = u.text) : t = u :=
  ht.format_injective hu h

end SolidScene.Outline
