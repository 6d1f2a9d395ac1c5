import SolidScene.Proofs.Lines
import SolidScene.Proofs.Scad.Comments

/-!
# The lines of a tree by the nodes that write them

Each line of emitted source is written by one node: for a line of its comment, for its head, or for
the end of its block. The script of a tree lists these lines with the addresses of their nodes, and
emission goes through the script line by line. A line is indented once for each step of the address
of its node; nothing else of the tree around the node shows in it.
-/
namespace SolidScene.Scad

variable {α : Type}

/-- What a line of a node is written for. -/
inductive Part where
  | remark (text : String)
  | head
  | ending
deriving DecidableEq, Repr

/-- A line that a node of a tree writes. -/
structure Place (α : Type) where
  /-- The way from the root to the node: which child to go to at each node on it. -/
  address : List Nat
  node : Node α
  part : Part

namespace Place

/-- How deep the node lies in the tree. -/
def depth (p : Place α) : Nat := p.address.length

/-- The place in a tree that has this tree as a child. -/
def under (index : Nat) (p : Place α) : Place α := { p with address := index :: p.address }

/-- What stands before every line of the node. -/
def lead (indent top : String) (p : Place α) : String := top ++ levels indent p.depth

/-- The node whose head stands on the line, if it is the line of a head. -/
def headed? (p : Place α) : Option (Node α) := if p.part = .head then some p.node else none

theorem lead_root (indent top : String) (n : Node α) (part : Part) :
    (⟨[], n, part⟩ : Place α).lead indent top = top := String.append_empty

theorem lead_under (indent top : String) (index : Nat) (p : Place α) :
    (p.under index).lead indent top = p.lead indent (top ++ indent) := by
  rw [lead, lead, String.append_assoc, ← levels_succ]
  rfl

theorem lead_empty (p : Place α) : p.lead "" "" = "" := by
  rw [lead, levels_empty, String.append_empty]

variable [Scalar α] [Numeral α]

def text (simplify : Bool) (p : Place α) : Except (Fault α) String :=
  match p.part with
  | .remark text => .ok text
  | .head => do
    let head ← p.node.head
    return head ++ p.node.opening simplify head
  | .ending => .ok "\x7d"

def line (indent top : String) (simplify : Bool) (p : Place α) : Except (Fault α) String := do
  return p.lead indent top ++ (← p.text simplify)

/-- Lines of comments that the node writes where this line stands. -/
theorem mapM_remarks (indent top : String) (simplify : Bool) (p : Place α)
    (remarks : List String) :
    (remarks.map fun r => { p with part := .remark r }).mapM (line indent top simplify) =
      .ok (remarks.map (p.lead indent top ++ ·)) := by
  rw [List.mapM_map]
  exact List.mapM_pure

end Place

namespace Node

/-- The node at an address in a tree. -/
def at? : Node α → List Nat → Option (Node α)
  | n, [] => some n
  | n, index :: address => n.children[index]?.bind fun c => c.at? address

end Node

/-- The line belongs to the node at its address in a tree, and to its comment if it is a line of
one. -/
def Place.IsOf (n : Node α) (p : Place α) : Prop :=
  n.at? p.address = some p.node ∧ ∀ text, p.part = .remark text → text ∈ p.node.remarks

namespace Node

mutual

/-- The lines of a tree with the nodes that write them, from the first line to the last. -/
def script (simplify comments : Bool) : Node α → List (Place α)
  | ⟨name, ps, ks, cs, c⟩ =>
    let n : Node α := ⟨name, ps, ks, cs, c⟩
    (if comments then n.remarks else []).map (⟨[], n, .remark ·⟩) ++ ⟨[], n, .head⟩ ::
      (scriptFrom simplify comments 0 cs ++ (n.closing simplify).map fun _ => ⟨[], n, .ending⟩)

/-- The lines of children, of which the first one has an index. -/
def scriptFrom (simplify comments : Bool) (index : Nat) : List (Node α) → List (Place α)
  | [] => []
  | c :: cs =>
    (c.script simplify comments).map (Place.under index) ++
      scriptFrom simplify comments (index + 1) cs

end

theorem script_eq (simplify comments : Bool) (n : Node α) :
    n.script simplify comments =
      (if comments then n.remarks else []).map (⟨[], n, .remark ·⟩) ++ ⟨[], n, .head⟩ ::
        (scriptFrom simplify comments 0 n.children ++
          (n.closing simplify).map fun _ => ⟨[], n, .ending⟩) := by
  obtain ⟨name, ps, ks, cs, c⟩ := n
  rw [script]

theorem mem_scriptFrom {simplify comments : Bool} {p : Place α} {cs : List (Node α)} {index : Nat}
    (h : p ∈ scriptFrom simplify comments index cs) :
    ∃ (i : Nat) (c : Node α) (q : Place α),
      cs[i]? = some c ∧ q ∈ c.script simplify comments ∧ p = q.under (index + i) := by
  induction cs generalizing index with
  | nil => cases h
  | cons c cs ih =>
    rw [scriptFrom, List.mem_append] at h
    rcases h with h | h
    · obtain ⟨q, hq, rfl⟩ := List.mem_map.mp h
      exact ⟨0, c, q, rfl, hq, rfl⟩
    · obtain ⟨i, d, q, hd, hq, rfl⟩ := ih h
      exact ⟨i + 1, d, q, hd, hq, by rw [Nat.add_assoc, Nat.add_comm 1 i]⟩

theorem isOf_of_mem_script {simplify comments : Bool} (n : Node α) :
    ∀ p ∈ n.script simplify comments, p.IsOf n := by
  induction n using Node.induction with
  | step n ih =>
    intro p hp
    rw [script_eq, List.mem_append, List.mem_cons, List.mem_append] at hp
    rcases hp with hp | rfl | hp | hp
    · obtain ⟨r, hr, rfl⟩ := List.mem_map.mp hp
      have hshown : r ∈ n.remarks := by
        cases comments with
        | false => cases hr
        | true => exact hr
      refine ⟨by rw [at?], ?_⟩
      rintro _ ⟨⟩
      exact hshown
    · exact ⟨by rw [at?], nofun⟩
    · obtain ⟨i, c, q, hc, hq, rfl⟩ := mem_scriptFrom hp
      obtain ⟨hat, hremark⟩ := ih c (List.mem_of_getElem? hc) q hq
      refine ⟨?_, hremark⟩
      rw [Place.under, at?, Nat.zero_add, hc, Option.bind_some, hat]
    · obtain ⟨-, -, rfl⟩ := List.mem_map.mp hp
      exact ⟨by rw [at?], nofun⟩

theorem heads_scriptFrom {simplify comments : Bool} {cs : List (Node α)}
    (h : ∀ c ∈ cs, (c.script simplify comments).filterMap Place.headed? = c.nodes) (index : Nat) :
    (scriptFrom simplify comments index cs).filterMap Place.headed? = cs.flatMap nodes := by
  induction cs generalizing index with
  | nil => rfl
  | cons c cs ih =>
    rw [List.forall_mem_cons] at h
    rw [scriptFrom, List.filterMap_append, List.filterMap_map, ih h.2, List.flatMap_cons, ← h.1]
    rfl

/-- Every node of a tree writes its head on one line, in pre-order. -/
theorem heads_script (simplify comments : Bool) (n : Node α) :
    (n.script simplify comments).filterMap Place.headed? = n.nodes := by
  induction n using Node.induction with
  | step n ih =>
    have hremarks (rs : List String) :
        (rs.map fun r => ⟨[], n, .remark r⟩).filterMap Place.headed? = [] := by
      simp [Place.headed?]
    have hending : ((n.closing simplify).map fun _ => ⟨[], n, .ending⟩).filterMap
        Place.headed? = [] := by
      simp [Place.headed?]
    rw [script_eq, nodes_eq, List.filterMap_append, List.filterMap_cons, List.filterMap_append,
      heads_scriptFrom ih, hremarks, hending, List.append_nil, List.nil_append]
    rfl

section Emission

variable [Scalar α] [Numeral α]

/-- The indent of all lines stands before the lines that are written without it. -/
theorem lines_top (n : Node α) (indent top : String) (simplify comments : Bool) :
    n.lines indent top simplify comments = do
      return (← n.lines indent "" simplify comments).map (top ++ ·) := by
  rw [lines_eq, lines_eq indent ""]
  cases n.head with
  | error fault => rfl
  | ok head =>
    cases childLines indent simplify comments n.children with
    | error fault => rfl
    | ok inner =>
      change Except.ok _ = Except.ok _
      simp [Function.comp_def, String.append_assoc]

/-- A line of a child takes one more indent in the script of its parent. -/
theorem mapM_script_under (c : Node α) (index : Nat) (indent top : String)
    (simplify comments : Bool) :
    ((c.script simplify comments).map (Place.under index)).mapM (Place.line indent top simplify) =
      (c.script simplify comments).mapM (Place.line indent (top ++ indent) simplify) := by
  rw [List.mapM_map]
  congr 1
  funext p
  rw [Function.comp_apply, Place.line, Place.line, Place.lead_under]
  rfl

theorem mapM_scriptFrom (indent top : String) (simplify comments : Bool) {cs : List (Node α)}
    (h : ∀ c ∈ cs, ∀ top, c.lines indent top simplify comments =
      (c.script simplify comments).mapM (Place.line indent top simplify)) (index : Nat) :
    (scriptFrom simplify comments index cs).mapM (Place.line indent top simplify) = do
      return (← childLines indent simplify comments cs).map (top ++ indent ++ ·) := by
  induction cs generalizing index with
  | nil => rfl
  | cons c cs ih =>
    rw [List.forall_mem_cons] at h
    rw [scriptFrom, List.mapM_append, mapM_script_under, ← h.1, lines_top, ih h.2, childLines]
    cases c.lines indent "" simplify comments with
    | error fault => rfl
    | ok first =>
      cases childLines indent simplify comments cs with
      | error fault => rfl
      | ok rest => exact congrArg Except.ok List.map_append.symm

/-- The end of the block of the root. -/
theorem mapM_ending (n : Node α) (indent top : String) (simplify : Bool) :
    ((n.closing simplify).map fun _ => ⟨[], n, .ending⟩).mapM (Place.line indent top simplify) =
      .ok ((n.closing simplify).map (top ++ ·)) := by
  have hline : Place.line indent top simplify ⟨[], n, .ending⟩ = .ok (top ++ "\x7d") := by
    rw [Place.line, Place.lead_root]
    rfl
  unfold closing
  split
  · rfl
  · rw [List.map_singleton, List.map_singleton, List.mapM_cons, hline]
    rfl

/-- Emission goes through the script of a tree line by line. -/
theorem lines_eq_mapM (n : Node α) (indent : String) (simplify comments : Bool) :
    ∀ top, n.lines indent top simplify comments =
      (n.script simplify comments).mapM (Place.line indent top simplify) := by
  -- A child is written behind the indents of its parent, so the indent of all lines has to vary.
  induction n using Node.induction with
  | step n ih =>
    intro top
    have hhead : Place.line indent top simplify ⟨[], n, .head⟩ = do
        let head ← n.head
        return top ++ (head ++ n.opening simplify head) := by
      rw [Place.line, Place.lead_root, Place.text]
      cases n.head <;> rfl
    have hremarks := Place.mapM_remarks indent top simplify ⟨[], n, .head⟩
      (if comments then n.remarks else [])
    rw [Place.lead_root] at hremarks
    rw [script_eq, List.mapM_append, List.mapM_cons, List.mapM_append, hremarks, hhead,
      mapM_scriptFrom indent top simplify comments ih, mapM_ending, lines_eq]
    cases n.head with
    | error fault => rfl
    | ok head =>
      cases childLines indent simplify comments n.children with
      | error fault => rfl
      | ok inner =>
        change Except.ok _ = Except.ok _
        simp

end Emission

end Node

end SolidScene.Scad
