import SolidScene.Proofs.Scad.Script

/-!
# What indents do to a text

The indents of a layout stand before its lines and change nothing else: not whether emission
succeeds, not the fault, not the number of lines and not what a line says behind its indents. Source
on one line is the block without comments, each line without its indents, so that no indent shows
in it. Nothing is assumed of the indents, which may be any text.
-/
namespace SolidScene.Scad

variable {α : Type} [Scalar α] [Numeral α]

namespace Place

theorem line_empty (simplify : Bool) : line (α := α) "" "" simplify = text simplify := by
  funext p
  rw [line, lead_empty]
  cases p.text simplify with
  | error fault => rfl
  | ok text => exact congrArg Except.ok String.empty_append

end Place

namespace Node

theorem lines_eq_texts (n : Node α) (simplify comments : Bool) :
    n.lines "" "" simplify comments = (n.script simplify comments).mapM (Place.text simplify) := by
  rw [lines_eq_mapM, Place.line_empty]

/-- Lines with and without indents are written alongside, each by the same node. -/
theorem lines_alongside (n : Node α) (indent top : String) (simplify comments : Bool) :
    Alongside (fun bare ls =>
        List.Forall₂ (fun p line => p.IsOf n ∧ p.text simplify = .ok line)
            (n.script simplify comments) bare ∧
          ls = List.zipWith (fun p line => top ++ levels indent p.depth ++ line)
            (n.script simplify comments) bare)
      (n.lines "" "" simplify comments) (n.lines indent top simplify comments) := by
  rw [lines_eq_texts, lines_eq_mapM]
  have hwalks := alongside_mapM (f := Place.text simplify)
    (fun p line => p.lead indent top ++ line) (n.script simplify comments)
  refine hwalks.imp ?_
  rintro bare ls ⟨htexts, rfl⟩
  exact ⟨related_imp htexts fun p hp line htext => ⟨n.isOf_of_mem_script p hp, htext⟩, rfl⟩

theorem code_inline (n : Node α) (layout : Layout) :
    n.code { layout with inline := true } = do
      return " ".intercalate (← n.lines "" "" layout.simplify false) := rfl

theorem code_block (n : Node α) (layout : Layout) :
    n.code { layout with inline := false, comments := false } = do
      return "\n".intercalate
        (← n.lines layout.indent layout.topIndent layout.simplify false) := rfl

/-- Source on one line is made of the lines of the block, each without its indents. -/
theorem code_inline_eq_block (n : Node α) (layout : Layout) :
    n.code { layout with inline := true } = do
      let block ← n.lines layout.indent layout.topIndent layout.simplify false
      return " ".intercalate (List.zipWith
        (fun p line => behindLead (layout.topIndent ++ levels layout.indent p.depth) line)
        (n.script layout.simplify false) block) := by
  rw [code_inline]
  have h := n.lines_alongside layout.indent layout.topIndent layout.simplify false
  -- All that counts about the two runs is that they go alongside.
  generalize n.lines "" "" layout.simplify false = bare at h ⊢
  generalize n.lines layout.indent layout.topIndent layout.simplify false = block at h ⊢
  cases h with
  | error fault => rfl
  | ok h =>
    obtain ⟨htexts, rfl⟩ := h
    exact congrArg (fun ls => Except.ok (" ".intercalate ls))
      (zipWith_behindLead _ htexts.length_eq).symm

/-- Emission with indents ends with the fault of emission without them, or with as many lines, each
behind the indent of all lines and one indent for each step of the way to the node that writes it.
Source on one line is the block without comments with these indents taken away and joined by
spaces, so that neither the indents nor the choice of comments shows in it. -/
theorem indents_stand_before_lines (n : Node α) :
    (∀ indent top simplify comments,
        Alongside (fun bare ls =>
            List.Forall₂ (fun p line => p.IsOf n ∧ p.text simplify = .ok line)
                (n.script simplify comments) bare ∧
              ls = List.zipWith (fun p line => top ++ levels indent p.depth ++ line)
                (n.script simplify comments) bare)
          (n.lines "" "" simplify comments) (n.lines indent top simplify comments)) ∧
      (∀ layout : Layout, n.code { layout with inline := false, comments := false } = do
        return "\n".intercalate
          (← n.lines layout.indent layout.topIndent layout.simplify false)) ∧
      (∀ layout : Layout, n.code { layout with inline := true } = do
        let block ← n.lines layout.indent layout.topIndent layout.simplify false
        return " ".intercalate (List.zipWith
          (fun p line => behindLead (layout.topIndent ++ levels layout.indent p.depth) line)
          (n.script layout.simplify false) block)) ∧
      ∀ (layout : Layout) (indent topIndent : String) (comments : Bool),
        n.code { layout with inline := true, indent, topIndent, comments } =
          n.code { layout with inline := true } :=
  ⟨n.lines_alongside, n.code_block, n.code_inline_eq_block, fun _ _ _ _ => rfl⟩

end Node

end SolidScene.Scad
