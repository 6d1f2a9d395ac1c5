import SolidScene.Proofs.Outcome
import SolidScene.Proofs.Scad.Tree
import SolidScene.Scad.Layout

/-!
# Source up to its comments

Two trees of the same heads are written alike but for their comments. If their comments can be told
apart wherever they differ, then so can the source that shows them: it is the same for both trees
exactly if the comments are. The comments are compared as the lines that are written for them, over
the whole tree. Nothing is said about trees whose comments have different numbers of lines.
-/
namespace SolidScene.Scad

/-- The same text, or texts that differ before one of them ends. -/
def Parted (s t : String) : Prop := ∀ u v, s ++ u = t ++ v → s = t

namespace Parted

variable {s s' t t' sep : String} {ls ms : List String}

theorem refl (s : String) : Parted s s := fun _ _ _ => rfl

theorem append (hs : Parted s s') (ht : Parted t t') : Parted (s ++ t) (s' ++ t') := by
  intro u v h
  rw [String.append_assoc, String.append_assoc] at h
  obtain rfl := hs _ _ h
  rw [ht u v ((String.append_right_inj s).mp h)]

/-- Joined lists of such texts are told apart by what they are joined of, whatever follows. -/
theorem eq_of_intercalate (h : List.Forall₂ Parted ls ms) :
    ∀ {u v}, sep.intercalate ls ++ u = sep.intercalate ms ++ v → ls = ms := by
  induction h with
  | nil => exact fun _ => rfl
  | @cons l m ls ms hl hls ih =>
    intro u v heq
    cases hls with
    | nil =>
      rw [String.intercalate_singleton, String.intercalate_singleton] at heq
      rw [hl u v heq]
    | cons hnext hrest =>
      rw [String.intercalate_cons_cons, String.intercalate_cons_cons, String.append_assoc,
        String.append_assoc, String.append_assoc, String.append_assoc] at heq
      obtain rfl := hl _ _ heq
      rw [ih ((String.append_right_inj sep).mp ((String.append_right_inj l).mp heq))]

theorem intercalate (h : List.Forall₂ Parted ls ms) :
    Parted (sep.intercalate ls) (sep.intercalate ms) := fun _ _ heq =>
  congrArg sep.intercalate (eq_of_intercalate h heq)

end Parted

/-- A text on one line. -/
def OneLine (s : String) : Prop := '\n' ∉ s.toList

instance (s : String) : Decidable (OneLine s) := inferInstanceAs (Decidable ('\n' ∉ s.toList))

theorem OneLine.append {s t : String} (hs : OneLine s) (ht : OneLine t) : OneLine (s ++ t) := by
  rw [OneLine, String.toList_append, List.mem_append]
  exact not_or.mpr ⟨hs, ht⟩

/-- Lines of two trees, and the lines of comments among them: the other lines are the same, and
comments stand in the same places behind the same indent. -/
inductive Woven : List String → List String → List String → List String → Prop where
  | nil : Woven [] [] [] []
  | same (l : String) {ls ms rs qs : List String} (h : Woven ls ms rs qs) :
    Woven (l :: ls) (l :: ms) rs qs
  | remark (indent : String) {r q : String} {ls ms rs qs : List String} (hr : Parted r q)
    (h : Woven ls ms rs qs) : Woven ((indent ++ r) :: ls) ((indent ++ q) :: ms) (r :: rs) (q :: qs)

namespace Woven

variable {ls ms rs qs : List String}

theorem refl (ls : List String) : Woven ls ls [] [] := by
  induction ls with
  | nil => exact .nil
  | cons l ls ih => exact ih.same l

theorem append {ls' ms' rs' qs' : List String} (h : Woven ls ms rs qs)
    (h' : Woven ls' ms' rs' qs') : Woven (ls ++ ls') (ms ++ ms') (rs ++ rs') (qs ++ qs') := by
  induction h with
  | nil => exact h'
  | same l _ ih => exact ih.same l
  | remark indent hr _ ih => exact ih.remark indent hr

theorem indented (h : Woven ls ms rs qs) (top : String) :
    Woven (ls.map (top ++ ·)) (ms.map (top ++ ·)) rs qs := by
  induction h with
  | nil => exact .nil
  | same l _ ih => exact ih.same (top ++ l)
  | remark indent hr _ ih =>
    simpa only [List.map_cons, ← String.append_assoc] using ih.remark (top ++ indent) hr

theorem of_remarks (h : List.Forall₂ Parted rs qs) : Woven rs qs rs qs := by
  induction h with
  | nil => exact .nil
  | cons hr _ ih => simpa only [String.empty_append] using ih.remark "" hr

theorem parted (h : Woven ls ms rs qs) : List.Forall₂ Parted ls ms := by
  induction h with
  | nil => exact .nil
  | same l _ ih => exact ih.cons (.refl l)
  | remark indent hr _ ih => exact ih.cons (Parted.append (.refl indent) hr)

theorem eq_iff (h : Woven ls ms rs qs) : ls = ms ↔ rs = qs := by
  induction h with
  | nil => exact Iff.rfl
  | same l _ ih => rw [List.cons_inj_right, ih]
  | remark indent _ _ ih => rw [List.cons.injEq, List.cons.injEq, ih, String.append_right_inj]

theorem intercalate_eq_iff (h : Woven ls ms rs qs) (sep : String) :
    sep.intercalate ls = sep.intercalate ms ↔ rs = qs := by
  rw [← h.eq_iff]
  exact ⟨fun heq => Parted.eq_of_intercalate h.parted (congrArg (· ++ "") heq),
    congrArg sep.intercalate⟩

end Woven

namespace Value

variable {α : Type} [Scalar α] [Numeral α]

theorem sources_congr {vs ws : List (Value α)}
    (h : List.Forall₂ (fun v w => v.source = w.source) vs ws) : sources vs = sources ws := by
  induction h with
  | nil => rfl
  | cons hfirst _ ih => rw [sources, sources, hfirst, ih]

end Value

namespace Node

variable {α : Type}

/-- The comment lines of a tree, without indent. -/
def commentLines (n : Node α) : List String := n.nodes.flatMap remarks

theorem commentLines_eq (n : Node α) :
    n.commentLines = n.remarks ++ n.children.flatMap commentLines := by
  rw [commentLines, nodes_eq, List.flatMap_cons, List.flatMap_assoc]
  rfl

/-- The comment lines of a tree as far as they are shown. -/
def shown (comments : Bool) (n : Node α) : List String := if comments then n.commentLines else []

theorem shown_eq (comments : Bool) (n : Node α) :
    n.shown comments =
      (if comments then n.remarks else []) ++ n.children.flatMap (shown comments) := by
  cases comments with
  | false => exact (List.flatMap_eq_nil_iff.mpr fun _ _ => rfl).symm
  | true => exact n.commentLines_eq

/-- How a statement is opened and closed depends on how many children it has, and on no more. -/
theorem body_congr {n m : Node α} (h : n.children.length = m.children.length) :
    n.opening = m.opening ∧ n.closing = m.closing := by
  have hempty : n.children.isEmpty = m.children.isEmpty := by
    rw [Bool.eq_iff_iff, List.isEmpty_iff_length_eq_zero, List.isEmpty_iff_length_eq_zero, h]
  constructor
  · funext simplify head
    simp only [opening, hempty, h]
  · funext simplify
    simp only [closing, hempty, h]

theorem remarks_commented {n : Node α} (hcomment : n.comment = none) {s : String}
    (hs : OneLine s) : (n.commented s).remarks = ["// " ++ s] := by
  have hline : (n.commented s).comment = some s := by
    simp [commented, annotate, hcomment, replaceComment]
  rw [remarks, hline]
  simp [List.splitOn_eq_singleton hs]

variable [Scalar α] [Numeral α]

/-- The same statement up to its children, with comments that can be told apart. -/
structure SameHead (n m : Node α) : Prop where
  head : n.head = m.head
  remarks : List.Forall₂ Parted n.remarks m.remarks

theorem keywordSources_congr {ks ls : List (String × Value α)}
    (h : List.Forall₂ (fun k l => k.1 = l.1 ∧ k.2.source = l.2.source) ks ls) :
    keywordSources ks = keywordSources ls := by
  induction h with
  | nil => rfl
  | @cons k l ks ls hfirst _ ih =>
    obtain ⟨key, v⟩ := k
    obtain ⟨key', w⟩ := l
    obtain ⟨rfl, hsource⟩ := hfirst
    rw [keywordSources, keywordSources, hsource, ih]

/-- Calls of one name without comments. -/
theorem sameHead_call {n m : Node α} {name : String} (hn : n.name = some name)
    (hm : m.name = some name)
    (hparameters : List.Forall₂ (fun v w => v.source = w.source) n.parameters m.parameters)
    (hkeywords : List.Forall₂ (fun k l => k.1 = l.1 ∧ k.2.source = l.2.source)
      n.keywords m.keywords) (hn' : n.comment = none) (hm' : m.comment = none) :
    SameHead n m where
  head := by
    simp only [Node.head, check, hn, hm, Value.sources_congr hparameters,
      keywordSources_congr hkeywords]
  remarks := by
    rw [Node.remarks, Node.remarks, hn', hm']
    exact .nil

theorem SameHead.commented_same {n m : Node α} (h : SameHead n m) (hcomment : n.comment = m.comment)
    (s : String) : SameHead (n.commented s) (m.commented s) where
  head := h.head
  remarks := by
    have hremarks : (n.commented s).remarks = (m.commented s).remarks := by
      simp only [Node.remarks, Node.commented, annotate, replaceComment, hcomment]
    rw [hremarks, List.forall₂_same]
    exact fun _ _ => .refl _

theorem SameHead.commented {n m : Node α} (h : SameHead n m) (hn : n.comment = none)
    (hm : m.comment = none) {s t : String} (hs : OneLine s) (ht : OneLine t) (hst : Parted s t) :
    SameHead (n.commented s) (m.commented t) where
  head := h.head
  remarks := by
    rw [remarks_commented hn hs, remarks_commented hm ht]
    exact .cons (Parted.append (.refl _) hst) .nil

/-- Trees that are written alike but for their comments. -/
def Twin (n m : Node α) : Prop :=
  ∀ indent top simplify comments,
    Alongside (fun ls ms => Woven ls ms (n.shown comments) (m.shown comments))
      (n.lines indent top simplify comments) (m.lines indent top simplify comments)

theorem woven_children {cs ds : List (Node α)} (h : List.Forall₂ Twin cs ds) (indent : String)
    (simplify comments : Bool) :
    Alongside
      (fun ls ms => Woven ls ms (cs.flatMap (shown comments)) (ds.flatMap (shown comments)))
      (childLines indent simplify comments cs) (childLines indent simplify comments ds) := by
  induction h with
  | nil => exact .ok .nil
  | cons hfirst _ ih =>
    exact (hfirst indent "" simplify comments).bind fun _ _ hls =>
      ih.bind fun _ _ hrest => .ok (hls.append hrest)

theorem lines_eq (indent top : String) (simplify comments : Bool) (n : Node α) :
    n.lines indent top simplify comments = do
      let head ← n.head
      let inner ← childLines indent simplify comments n.children
      return (if comments then n.remarks else []).map (top ++ ·) ++
        [top ++ (head ++ n.opening simplify head)] ++ inner.map (top ++ indent ++ ·) ++
        (n.closing simplify).map (top ++ ·) := by
  cases n
  rfl

theorem twin_of_children {n m : Node α} (h : SameHead n m)
    (hchildren : List.Forall₂ Twin n.children m.children) : Twin n m := by
  intro indent top simplify comments
  obtain ⟨hopening, hclosing⟩ := body_congr hchildren.length_eq
  have hremarks : Woven (if comments then n.remarks else []) (if comments then m.remarks else [])
      (if comments then n.remarks else []) (if comments then m.remarks else []) := by
    split
    · exact .of_remarks h.remarks
    · exact .nil
  rw [lines_eq, lines_eq, h.head, hopening, hclosing, shown_eq, shown_eq]
  refine (Alongside.refl m.head).bind ?_
  rintro head _ rfl
  refine (woven_children hchildren indent simplify comments).bind fun inner inner' hinner => .ok ?_
  have hline := Woven.refl [top ++ (head ++ m.opening simplify head)]
  have hend := Woven.refl ((m.closing simplify).map (top ++ ·))
  simpa only [List.append_nil] using
    (((hremarks.indented top).append hline).append (hinner.indented (top ++ indent))).append hend

/-- The source of such trees is the same if it does not show comments, or if the comments are the
same; and only then, or if there is none. -/
theorem Twin.code {n m : Node α} (h : Twin n m) (layout : Layout) :
    Alongside (fun s t => s = t ↔
        layout.inline = true ∨ layout.comments = false ∨ n.commentLines = m.commentLines)
      (n.code layout) (m.code layout) := by
  unfold Node.code
  split
  · next hinline =>
    refine (h "" "" layout.simplify false).bind fun ls ms hls => .ok ?_
    rw [hls.intercalate_eq_iff]
    simp [shown, hinline]
  · next hinline =>
    refine (h layout.indent layout.topIndent layout.simplify layout.comments).bind
      fun ls ms hls => .ok ?_
    rw [hls.intercalate_eq_iff]
    cases hcomments : layout.comments <;> simp [shown, hinline]

end Node

end SolidScene.Scad
