import Mathlib.Data.Set.Function
import SolidScene.Proofs.Outline.Drawing

/-!
# The place of a line in an outline

Every node has one line, in pre-order, and what stands before its label is known from the way to it
from the root: how long the way is where levels are indented, and which nodes on it are last
children where branches are drawn. No other line is looked at for it. Only a drawing can be read
back: indented levels look the same as labels that start with the indent.
-/
namespace SolidScene.Outline

/-- A node of a tree as its line shows it. -/
structure Spot where
  /-- For each node on the way from the root, itself included and the root left out, whether it is
  the last child of its parent. -/
  way : List Bool
  label : String
deriving DecidableEq, Repr

mutual

/-- The nodes of a tree in pre-order, for a tree that a way leads to. -/
def spots (way : List Bool) : Outline → List Spot
  | node label children => ⟨way, label⟩ :: spotsOf way children

def spotsOf (way : List Bool) : List Outline → List Spot
  | [] => []
  | child :: rest => child.spots (way ++ [rest.isEmpty]) ++ spotsOf way rest

end

/-- The branch of a node beside the lines below it. -/
def bar (last : Bool) : String := if last then "    " else "|   "

/-- The branch of a node in its own line. -/
def tip (last : Bool) : String := if last then "'-- " else "|-- "

def bars (way : List Bool) : String := String.join (way.map bar)

/-- The branches that lead to a node: bars of the nodes above it without the root, and its tip. -/
def branch (way : List Bool) : String :=
  match way.getLast? with
  | none => ""
  | some last => bars way.dropLast ++ tip last

/-- What stands before the label of a node, apart from the indent of all lines. -/
def lead (indent : Option String) (way : List Bool) : String :=
  match indent with
  | none => branch way
  | some indent => levels indent way.length

theorem bars_concat (way : List Bool) (last : Bool) :
    bars (way ++ [last]) = bars way ++ bar last := by
  rw [bars, List.map_append, String.join_append, List.map_singleton, String.join_cons,
    String.join_nil, String.append_empty, bars]

theorem branch_concat (way : List Bool) (last : Bool) :
    branch (way ++ [last]) = bars way ++ tip last := by
  rw [branch, List.getLast?_concat, List.dropLast_concat]

theorem map_append_behind (s first rest : String) (ls : List String) :
    (behind first rest ls).map (s ++ ·) = behind (s ++ first) (s ++ rest) ls := by
  cases ls with
  | nil => rfl
  | cons l ls => simp [behind, String.append_assoc]

/-- The lines of a child behind all branches that lead to it. -/
theorem map_bars_behind (way : List Bool) (last : Bool) (ls : List String) :
    (behind (tip last) (bar last) ls).map (bars way ++ ·) =
      behind (branch (way ++ [last])) (bars (way ++ [last])) ls := by
  rw [map_append_behind, branch_concat, bars_concat]

theorem drawings_cons (c : Outline) (cs : List Outline) :
    drawings (c :: cs) = behind (tip cs.isEmpty) (bar cs.isEmpty) c.drawing ++ drawings cs := by
  cases cs with
  | nil => exact (List.append_nil _).symm
  | cons d ds => rfl

/-- A walk through a row of children shows their spots if it takes each child in turn and knows
whether another one follows. -/
theorem map_spotsOf {δ : Type} {f : Spot → δ} {g : List Outline → List δ} {way : List Bool}
    {cs : List Outline} (nil : g [] = [])
    (cons : ∀ c ∈ cs, ∀ rest,
      g (c :: rest) = (c.spots (way ++ [rest.isEmpty])).map f ++ g rest) :
    g cs = (spotsOf way cs).map f := by
  induction cs with
  | nil => exact nil
  | cons c cs ih =>
    rw [List.forall_mem_cons] at cons
    rw [cons.1, ih cons.2, spotsOf, List.map_append]

theorem drawing_eq_spots (t : Outline) : ∀ way, behind (branch way) (bars way) t.drawing =
    (t.spots way).map fun s => branch s.way ++ s.label := by
  -- The first line of a tree takes another branch than the lines below it, for every way to it.
  induction t using induction with
  | node label children ih =>
    intro way
    have hbelow : (drawings children).map (bars way ++ ·) =
        (spotsOf way children).map fun s => branch s.way ++ s.label :=
      map_spotsOf (g := fun cs => (drawings cs).map (bars way ++ ·)) rfl fun c hc rest => by
        rw [drawings_cons, List.map_append, map_bars_behind, ih c hc]
    rw [drawing, behind, hbelow, spots, List.map_cons]

theorem indented_eq_spots (indent : String) (t : Outline) : ∀ way,
    (t.indented indent).map (levels indent way.length ++ ·) =
      (t.spots way).map fun s => levels indent s.way.length ++ s.label := by
  induction t using induction with
  | node label children ih =>
    intro way
    have hbelow : (indentedAll indent children).map (levels indent way.length ++ ·) =
        (spotsOf way children).map fun s => levels indent s.way.length ++ s.label := by
      refine map_spotsOf (g := fun cs => (indentedAll indent cs).map (levels indent way.length ++ ·))
        rfl fun c hc rest => ?_
      have hlevel : levels indent (way ++ [rest.isEmpty]).length =
          levels indent way.length ++ indent := by
        rw [List.length_append, List.length_singleton, levels_succ_inner]
      rw [indentedAll, List.map_append, List.map_map, ← ih c hc, hlevel]
      simp only [Function.comp_def, String.append_assoc]
    rw [indented, List.map_cons, hbelow, spots, List.map_cons]

theorem labels_spots (t : Outline) : ∀ way, (t.spots way).map Spot.label = t.labels := by
  induction t using induction with
  | node label children ih =>
    intro way
    have hbelow : labelsOf children = (spotsOf way children).map Spot.label :=
      map_spotsOf rfl fun c hc rest => by rw [labelsOf, ih c hc]
    rw [spots, List.map_cons, labels, hbelow]

theorem lines_eq_spots (t : Outline) (indent : Option String) (top : String) :
    t.lines indent top = (t.spots []).map fun s => top ++ (lead indent s.way ++ s.label) := by
  have hroot : behind "" "" t.drawing = t.drawing := by
    rw [drawing_eq]
    simp [behind]
  cases indent with
  | none =>
    rw [lines, ← hroot]
    exact (congrArg (List.map (top ++ ·)) (t.drawing_eq_spots [])).trans List.map_map
  | some indent =>
    have hlevels := t.indented_eq_spots indent []
    simp only [List.length_nil, levels_zero, String.empty_append, List.map_id'] at hlevels
    rw [lines, hlevels, List.map_map]
    rfl

/-- Every node of a tree has one line, in pre-order: the indent of all lines, one indent for each
level or the branches that lead to the node, and its label. A drawing determines its tree whatever
the labels are, and so does its text if no label has a line end in it. -/
theorem lines_tell_tree :
    (∀ (t : Outline) (indent : Option String) (top : String),
        t.lines indent top = (t.spots []).map fun s => top ++ (lead indent s.way ++ s.label)) ∧
      (∀ t : Outline, (t.spots []).map Spot.label = t.labels) ∧
      (∀ top, Function.Injective fun t : Outline => t.lines none top) ∧
      (∀ top, Set.InjOn (fun t : Outline => t.format none top) {t | t.OneLined}) ∧
      Set.InjOn text {t | t.OneLined} := by
  refine ⟨lines_eq_spots, fun t => t.labels_spots [], fun top t u h => ?_,
    fun top t ht u hu h => ht.format_injective hu h, fun t ht u hu h => ht.text_injective hu h⟩
  exact drawing_injective (map_append_injective top h)

/-- Below a node that is not the last child of the root, the last child of that node. -/
example : lead none [false, true] = "|   '-- " ∧ lead (some "  ") [false, true] = "    " := by decide

end SolidScene.Outline
