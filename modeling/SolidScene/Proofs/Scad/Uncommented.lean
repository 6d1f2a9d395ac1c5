import SolidScene.Proofs.Scad.Script

/-!
# Source with and without comments

Comments do not change code. A tree without its comments is written as the tree is with comments
left out, and has the same outline. Where comments are shown, each node writes the lines of its
comment directly above its head, behind the same indent, and no other line is touched.
-/
namespace SolidScene.Scad

variable {α : Type}

namespace Node

/-- The second tree is the first one without its comments. -/
inductive Stripped : Node α → Node α → Prop where
  | node {n m : Node α} (hname : m.name = n.name) (hparameters : m.parameters = n.parameters)
    (hkeywords : m.keywords = n.keywords) (hcomment : m.comment = none)
    (hchildren : List.Forall₂ Stripped n.children m.children) : Stripped n m

theorem clearComments_eq (n : Node α) :
    n.clearComments = { n with children := n.children.map clearComments, comment := none } := by
  obtain ⟨name, ps, ks, cs, c⟩ := n
  rw [clearComments, eq_map_of_cons (f := clearAll) rfl (fun _ _ => rfl) cs]

theorem stripped_clearComments (n : Node α) : Stripped n n.clearComments := by
  induction n using Node.induction with
  | step n ih =>
    rw [clearComments_eq]
    exact .node rfl rfl rfl rfl (List.forall₂_map_right_iff.mpr (List.forall₂_same.mpr ih))

namespace Stripped

variable {n m : Node α}

theorem remarks (h : Stripped n m) : m.remarks = [] := by
  cases h with
  | node _ _ _ hcomment _ => rw [Node.remarks, hcomment]

theorem children (h : Stripped n m) : List.Forall₂ Stripped n.children m.children := by
  cases h with
  | node _ _ _ _ hchildren => exact hchildren

variable [Scalar α] [Numeral α]

theorem head (h : Stripped n m) : m.head = n.head := by
  cases h with
  | node hname hparameters hkeywords _ _ =>
    simp only [Node.head, check, hname, hparameters, hkeywords]

end Stripped

section Congruence

variable [Scalar α] [Numeral α] {ns ms : List (Node α)}

theorem outline_eq (n : Node α) : n.outline = do
    let below ← outlines n.children
    let label ← n.head
    return .node label below := by
  cases n
  rfl

theorem outlines_congr (h : List.Forall₂ (fun n m => m.outline = n.outline) ns ms) :
    outlines ms = outlines ns := by
  induction h with
  | nil => rfl
  | cons hfirst _ ih => rw [outlines, outlines, hfirst, ih]

theorem childLines_congr {indent : String} {simplify comments comments' : Bool}
    (h : List.Forall₂ (fun n m : Node α => m.lines indent "" simplify comments =
      n.lines indent "" simplify comments') ns ms) :
    childLines indent simplify comments ms = childLines indent simplify comments' ns := by
  induction h with
  | nil => rfl
  | cons hfirst _ ih => rw [childLines, childLines, hfirst, ih]

end Congruence

namespace Stripped

variable [Scalar α] [Numeral α] {n m : Node α}

/-- No comment shows in an outline. -/
theorem outline (h : Stripped n m) : m.outline = n.outline := by
  induction n using Node.induction generalizing m with
  | step n ih =>
    have hbelow : outlines m.children = outlines n.children :=
      outlines_congr (related_imp h.children fun c hc d => ih c hc)
    rw [outline_eq, outline_eq, hbelow, h.head]

/-- A tree without its comments is written as the tree is without comments, whether they are asked
for or not. -/
theorem lines (h : Stripped n m) (indent top : String) (simplify comments : Bool) :
    m.lines indent top simplify comments = n.lines indent top simplify false := by
  induction n using Node.induction generalizing m top with
  | step n ih =>
    have hinner : childLines indent simplify comments m.children =
        childLines indent simplify false n.children :=
      childLines_congr (related_imp h.children fun c hc d hd => ih c hc hd "")
    obtain ⟨hopening, hclosing⟩ := body_congr h.children.length_eq
    rw [lines_eq, lines_eq, h.head, h.remarks, hinner, hopening, hclosing, ite_self,
      if_neg Bool.false_ne_true]

theorem code (h : Stripped n m) (layout : Layout) (comments : Bool) :
    m.code { layout with comments } = n.code { layout with comments := false } := by
  unfold Node.code
  split
  · rw [h.lines]
  · rw [h.lines]

end Stripped

/-- The lines of a comment are its parts between line ends, each marked as a comment. -/
theorem remarks_eq_parts (n : Node α) :
    n.comment = none ∧ n.remarks = [] ∨
      ∃ parts ≠ [], n.comment = some ("\n".intercalate parts) ∧ (∀ part ∈ parts, OneLine part) ∧
        n.remarks = parts.map ("// " ++ ·) := by
  cases hcomment : n.comment with
  | none => exact .inl ⟨rfl, by rw [remarks, hcomment]⟩
  | some comment =>
    refine .inr ⟨(comment.toList.splitOn '\n').map String.ofList, ?_, ?_, ?_, ?_⟩
    · exact fun h => List.splitOn_ne_nil _ _ (List.map_eq_nil_iff.mp h)
    · refine congrArg some (String.toList_injective ?_)
      rw [String.toList_intercalate, List.map_map]
      simp [Function.comp_def, List.intercalate_splitOn]
    · refine List.forall_mem_map.mpr fun part hpart => ?_
      rw [OneLine, String.toList_ofList]
      exact not_mem_of_mem_splitOn part hpart
    · rw [remarks, hcomment, List.map_map]
      rfl

end Node

/-! ## Comments that are shown -/

namespace Place

/-- What a node writes above a line of the tree without comments: the lines of its comment above
its head, and nothing above the end of its block. -/
def above (p : Place α) : List String := if p.part = .head then p.node.remarks else []

/-- A line with the lines of a comment above it. -/
def withRemarks (p : Place α) : List (Place α) :=
  (p.above.map fun r => { p with part := .remark r }) ++ [p]

theorem withRemarks_under (p : Place α) (index : Nat) :
    (p.under index).withRemarks = p.withRemarks.map (under index) := by
  rw [withRemarks, withRemarks, List.map_append, List.map_map]
  rfl

theorem mapM_withRemarks [Scalar α] [Numeral α] (indent top : String) (simplify : Bool)
    (p : Place α) :
    p.withRemarks.mapM (line indent top simplify) = do
      return p.above.map (p.lead indent top ++ ·) ++ [← p.line indent top simplify] := by
  rw [withRemarks, List.mapM_append, mapM_remarks, List.mapM_cons]
  cases p.line indent top simplify <;> rfl

end Place

namespace Node

theorem scriptFrom_true {simplify : Bool} {cs : List (Node α)}
    (h : ∀ c ∈ cs, c.script simplify true = (c.script simplify false).flatMap Place.withRemarks)
    (index : Nat) :
    scriptFrom simplify true index cs =
      (scriptFrom simplify false index cs).flatMap Place.withRemarks := by
  induction cs generalizing index with
  | nil => rfl
  | cons c cs ih =>
    rw [List.forall_mem_cons] at h
    have hunder : (fun p : Place α => (p.under index).withRemarks) =
        fun p => p.withRemarks.map (Place.under index) :=
      funext fun p => p.withRemarks_under index
    rw [scriptFrom, scriptFrom, List.flatMap_append, h.1, ih h.2, List.map_flatMap,
      List.flatMap_map, hunder]

/-- Where comments are shown, a script has the lines of a comment above the head of its node. -/
theorem script_true (simplify : Bool) (n : Node α) :
    n.script simplify true = (n.script simplify false).flatMap Place.withRemarks := by
  induction n using Node.induction with
  | step n ih =>
    have hhead : Place.withRemarks ⟨[], n, .head⟩ =
        (n.remarks.map fun r => ⟨[], n, .remark r⟩) ++ [⟨[], n, .head⟩] := rfl
    have hending : ((n.closing simplify).map fun _ => ⟨[], n, .ending⟩).flatMap Place.withRemarks =
        (n.closing simplify).map fun _ => ⟨[], n, .ending⟩ := by
      rw [List.flatMap_map]
      exact List.map_eq_flatMap.symm
    rw [script_eq, script_eq, if_pos rfl, if_neg Bool.false_ne_true, List.map_nil, List.nil_append,
      List.flatMap_cons, List.flatMap_append, hhead, hending, scriptFrom_true ih,
      List.append_assoc, List.singleton_append]

variable [Scalar α] [Numeral α]

/-- Lines with and without comments are written alongside, each line of the tree by the same
node. -/
theorem comments_alongside (n : Node α) (indent top : String) (simplify : Bool) :
    Alongside (fun plain shown =>
        List.Forall₂ (fun p line => p.IsOf n ∧ p.line indent top simplify = .ok line)
            (n.script simplify false) plain ∧
          shown = (List.zipWith (fun p line => p.above.map (p.lead indent top ++ ·) ++ [line])
            (n.script simplify false) plain).flatten)
      (n.lines indent top simplify false) (n.lines indent top simplify true) := by
  have hwalk : (fun p : Place α => p.withRemarks.mapM (Place.line indent top simplify)) =
      fun p => do
        return p.above.map (p.lead indent top ++ ·) ++ [← p.line indent top simplify] :=
    funext (Place.mapM_withRemarks indent top simplify)
  have hwalks := alongside_mapM (f := Place.line indent top simplify)
    (fun p line => p.above.map (p.lead indent top ++ ·) ++ [line]) (n.script simplify false)
  rw [lines_eq_mapM, lines_eq_mapM, script_true, mapM_flatMap, hwalk, ← bind_pure (List.mapM _ _)]
  refine hwalks.bind fun plain shown h => ?_
  obtain ⟨hplain, rfl⟩ := h
  exact .ok ⟨related_imp hplain fun p hp line hline => ⟨n.isOf_of_mem_script p hp, hline⟩, rfl⟩

/-- Comments do not change code: without them a tree has the same outline and is written as the
tree is where comments are left out. Where they are shown, the parts of each comment stand above
the one line of the head of its node, each behind what stands before that line, and every other
line stays as it is. -/
theorem comments_stand_above_heads (n : Node α) :
    Stripped n (n.clearComment true) ∧
      (n.clearComment true).outline = n.outline ∧
      (∀ (layout : Layout) (comments : Bool), (n.clearComment true).code { layout with comments } =
        n.code { layout with comments := false }) ∧
      (∀ m : Node α, m.comment = none ∧ m.remarks = [] ∨
        ∃ parts ≠ [], m.comment = some ("\n".intercalate parts) ∧ (∀ part ∈ parts, OneLine part) ∧
          m.remarks = parts.map ("// " ++ ·)) ∧
      (∀ simplify, (n.script simplify false).filterMap Place.headed? = n.nodes) ∧
      ∀ indent top simplify,
        Alongside (fun plain shown =>
            List.Forall₂ (fun p line => p.IsOf n ∧ p.line indent top simplify = .ok line)
                (n.script simplify false) plain ∧
              shown = (List.zipWith (fun p line => p.above.map (p.lead indent top ++ ·) ++ [line])
                (n.script simplify false) plain).flatten)
          (n.lines indent top simplify false) (n.lines indent top simplify true) :=
  ⟨n.stripped_clearComments, n.stripped_clearComments.outline, n.stripped_clearComments.code,
    remarks_eq_parts, fun simplify => n.heads_script simplify false,
    n.comments_alongside⟩

end Node

end SolidScene.Scad
