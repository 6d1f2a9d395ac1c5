import SolidScene.Proofs.Listwise
import SolidScene.Proofs.Outcome
import SolidScene.Proofs.Scad.Tree
import SolidScene.Scad.Layout

/-!
# Which trees cannot be emitted

A statement is at fault by itself if its name breaks the rules on names, or if one of its values
has no source: an empty list or a number that is not finite, at any depth. A tree cannot be emitted
exactly if one of its nodes is at fault, and the fault that is reported is that of the first such
node in pre-order, under every layout. The outline of the tree fails on the same trees, with the
fault of the first such node in post-order. Building a tree does not look for faults, so nothing is
assumed of the trees here.
-/
namespace SolidScene.Scad

variable {α : Type}

namespace Value

mutual

/-- A value and the values inside it, depth first and from left to right. -/
def within : Value α → List (Value α)
  | number n => [number n]
  | text s => [text s]
  | list items => list items :: withinEach items

def withinEach : List (Value α) → List (Value α)
  | [] => []
  | item :: items => item.within ++ withinEach items

end

theorem within_list (items : List (Value α)) :
    (list items).within = list items :: items.flatMap within := by
  rw [within, eq_flatMap_of_cons (f := withinEach) rfl (fun _ _ => rfl) items]

variable [Numeral α]

/-- Why a value has no source, apart from the values inside it. -/
def fault? : Value α → Option (Fault α)
  | number n => if Numeral.isFinite n then none else some (.nonFinite n)
  | text _ => none
  | list items => if items.isEmpty then some .emptyList else none

theorem fault?_eq_none (v : Value α) :
    v.fault? = none ↔
      ¬(v = list [] ∨ ∃ x, v = number x ∧ Numeral.isFinite x = false) := by
  cases v with
  | number n => simp [fault?]
  | text s => simp [fault?]
  | list items => cases items <;> simp [fault?]

variable [Scalar α]

theorem failure?_sources (vs : List (Value α)) :
    failure? (sources vs) = vs.findSome? fun v => failure? v.source :=
  failure?_of_cons (f := sources) (k := fun _ first rest => first :: rest) rfl (fun _ _ => rfl) vs

/-- A value ends with the first fault of the values inside it. -/
theorem failure?_source (v : Value α) : failure? v.source = v.within.findSome? fault? := by
  induction v using Value.induction with
  | number n =>
    cases hfinite : Numeral.isFinite n with
    | false => simp [source, within, fault?, failure?, hfinite]
    | true => cases hzero : n == 0 <;> simp [source, within, fault?, failure?, hfinite, hzero]
  | text s => rfl
  | list items ih =>
    cases items with
    | nil => rfl
    | cons item items =>
      rw [source, failure?_return fun texts => "[" ++ ", ".intercalate texts ++ "]",
        failure?_sources, within_list]
      change _ = ((item :: items).flatMap within).findSome? fault?
      rw [findSome?_flatMap]
      exact findSome?_congr ih

end Value

namespace Node

/-- The values of a statement, positional ones first, each before those inside it. -/
def values (n : Node α) : List (Value α) :=
  (n.parameters ++ n.keywords.map Prod.snd).flatMap Value.within

/-- Which rule on names a statement breaks, if it breaks one. -/
def nameFault? (n : Node α) : Option StatementFault :=
  match n.name, n.parameters, n.keywords with
  | some name, _, _ => if name = "" then some .emptyName else none
  | none, _ :: _, _ => some .parametersWithoutName
  | none, [], _ :: _ => some .keywordsWithoutName
  | none, [], [] => none

theorem failure?_check (n : Node α) : failure? n.check = n.nameFault? := by
  obtain ⟨name, ps, ks, cs, c⟩ := n
  cases name with
  | none => cases ps <;> cases ks <;> rfl
  | some name =>
    by_cases hempty : name = ""
    · simp [check, nameFault?, failure?, hempty]
    · simp [check, nameFault?, failure?, hempty]

/-- The statement has an empty name, or values without a name. -/
def Misnamed (n : Node α) : Prop :=
  n.name = some "" ∨ n.name = none ∧ (n.parameters ≠ [] ∨ n.keywords ≠ [])

theorem nameFault?_eq_none (n : Node α) : n.nameFault? = none ↔ ¬n.Misnamed := by
  obtain ⟨name, ps, ks, cs, c⟩ := n
  cases name with
  | none => cases ps <;> cases ks <;> simp [nameFault?, Misnamed]
  | some name => simp [nameFault?, Misnamed]

variable [Numeral α]

/-- Why a statement has no source, apart from its children. -/
def fault? (n : Node α) : Option (Fault α) :=
  (n.nameFault?.map .statement).or (n.values.findSome? Value.fault?)

/-- The statement breaks a rule on names, or one of its values is, or has inside it, an empty list
or a number that is not finite. -/
def Faulty (n : Node α) : Prop :=
  n.Misnamed ∨ ∃ v ∈ n.values, v = .list [] ∨ ∃ x, v = .number x ∧ Numeral.isFinite x = false

theorem fault?_eq_none (n : Node α) : n.fault? = none ↔ ¬n.Faulty := by
  rw [fault?, Option.or_eq_none_iff, Option.map_eq_none_iff, List.findSome?_eq_none_iff,
    nameFault?_eq_none, Faulty, not_or]
  simp only [Value.fault?_eq_none, not_exists, not_and]

theorem exists_faulty_iff {ns : List (Node α)} :
    (∃ fault, ns.findSome? fault? = some fault) ↔ ∃ n ∈ ns, n.Faulty := by
  rw [← Option.isSome_iff_exists, Option.isSome_iff_ne_none, ne_eq, List.findSome?_eq_none_iff]
  simp only [fault?_eq_none, not_forall, not_not, exists_prop]

variable [Scalar α]

theorem failure?_keywordSources (ks : List (String × Value α)) :
    failure? (keywordSources ks) = ks.findSome? fun k => failure? k.2.source :=
  failure?_of_cons (f := keywordSources) (g := fun k => k.2.source)
    (k := fun k text rest => (k.1 ++ " = " ++ text) :: rest) rfl (fun _ _ => rfl) ks

theorem findSome?_values (n : Node α) :
    n.values.findSome? Value.fault? =
      (failure? (Value.sources n.parameters)).or (failure? (keywordSources n.keywords)) := by
  have hvalues : (fun v : Value α => v.within.findSome? Value.fault?) =
      fun v => failure? v.source := funext fun v => v.failure?_source.symm
  rw [values, findSome?_flatMap, hvalues, List.findSome?_append, List.findSome?_map,
    Value.failure?_sources, failure?_keywordSources]
  rfl

theorem failure?_head (n : Node α) : failure? n.head = n.fault? := by
  rw [fault?, findSome?_values, ← failure?_check]
  obtain ⟨name, ps, ks, cs, c⟩ := n
  cases name with
  | none =>
    -- A node without a name that keeps the rules has no values.
    cases ps <;> cases ks <;> rfl
  | some name =>
    by_cases hempty : name = ""
    · simp [head, check, failure?, hempty, throw, throwThe, MonadExceptOf.throw]
    · simp only [head, check, hempty, if_false]
      rw [failure?_bind fun _ => failure?_return _]
      rfl

theorem failure?_lines (indent : String) (simplify comments : Bool) (n : Node α) :
    ∀ top, failure? (n.lines indent top simplify comments) = n.nodes.findSome? fault? := by
  induction n using Node.induction with
  | step n ih =>
    intro top
    have hinner : failure? (childLines indent simplify comments n.children) =
        n.children.findSome? fun c => c.nodes.findSome? fault? :=
      (failure?_of_cons (f := childLines indent simplify comments)
        (g := fun c => c.lines indent "" simplify comments)
        (k := fun _ first rest => first ++ rest) rfl (fun _ _ => rfl) n.children).trans
        (findSome?_congr fun c hc => ih c hc "")
    rw [findSome?_nodes, ← hinner, ← failure?_head]
    obtain ⟨name, ps, ks, cs, c⟩ := n
    exact failure?_bind fun head => failure?_return _

theorem failure?_code (n : Node α) (layout : Layout) :
    failure? (n.code layout) = n.nodes.findSome? fault? := by
  unfold code
  split
  · exact (failure?_return _).trans (failure?_lines _ _ _ n _)
  · exact (failure?_return _).trans (failure?_lines _ _ _ n _)

theorem failure?_outline (n : Node α) : failure? n.outline = n.postorder.findSome? fault? := by
  induction n using Node.induction with
  | step n ih =>
    have hbelow : failure? (outlines n.children) =
        n.children.findSome? fun c => c.postorder.findSome? fault? :=
      (failure?_of_cons (f := outlines) (k := fun _ first rest => first :: rest) rfl
        (fun _ _ => rfl) n.children).trans (findSome?_congr ih)
    rw [findSome?_postorder, ← hbelow, ← failure?_head]
    obtain ⟨name, ps, ks, cs, c⟩ := n
    exact failure?_bind fun below => failure?_return _

/-- The outline has the shape of the tree, and every label is the head of its node. -/
inductive Headed : Node α → Outline → Prop where
  | node {n : Node α} {label : String} {below : List Outline} (hhead : n.head = .ok label)
    (hbelow : List.Forall₂ Headed n.children below) : Headed n (.node label below)

theorem outlines_ok {ns : List (Node α)} {os : List Outline} :
    outlines ns = .ok os ↔ List.Forall₂ (fun n o => n.outline = .ok o) ns os := by
  induction ns generalizing os with
  | nil => simp [outlines, eq_comm]
  | cons n ns ih =>
    simp only [outlines, bind_ok, pure_ok, List.forall₂_cons_left_iff, ih]
    constructor
    · rintro ⟨o, ho, os, hos, rfl⟩
      exact ⟨o, os, ho, hos, rfl⟩
    · rintro ⟨o, os, ho, hos, rfl⟩
      exact ⟨o, ho, os, hos, rfl⟩

theorem outline_ok_iff_headed (n : Node α) : ∀ o, n.outline = .ok o ↔ Headed n o := by
  induction n using Node.induction with
  | step n ih =>
    intro o
    have hbelow (os : List Outline) :
        outlines n.children = .ok os ↔ List.Forall₂ Headed n.children os :=
      outlines_ok.trans (related_congr ih)
    have houtline : n.outline = .ok o ↔ ∃ below, outlines n.children = .ok below ∧
        ∃ label, n.head = .ok label ∧ .node label below = o := by
      obtain ⟨name, ps, ks, cs, c⟩ := n
      simp only [outline, bind_ok, pure_ok]
    rw [houtline]
    constructor
    · rintro ⟨below, hos, label, hhead, rfl⟩
      exact .node hhead ((hbelow below).mp hos)
    · rintro ⟨hhead, hos⟩
      exact ⟨_, (hbelow _).mpr hos, _, hhead, rfl⟩

/-- A tree cannot be emitted exactly if one of its nodes is faulty, and the fault is that of the
first one in pre-order, whatever the layout. It has no outline exactly if one of its nodes is
faulty, with the fault of the first one in post-order, and otherwise the outline is the tree of its
heads. -/
theorem emission_fails_iff_faulty (n : Node α) :
    (∀ layout, (∃ fault, n.code layout = .error fault) ↔ ∃ m ∈ n.nodes, m.Faulty) ∧
      (∀ layout fault, n.code layout = .error fault ↔ n.nodes.findSome? fault? = some fault) ∧
      ((∃ fault, n.outline = .error fault) ↔ ∃ m ∈ n.nodes, m.Faulty) ∧
      (∀ fault, n.outline = .error fault ↔ n.postorder.findSome? fault? = some fault) ∧
      ∀ o, n.outline = .ok o ↔ Headed n o := by
  have hcode (layout : Layout) (fault : Fault α) :
      n.code layout = .error fault ↔ n.nodes.findSome? fault? = some fault := by
    rw [← failure?_code n layout, failure?_eq_some]
  have houtline (fault : Fault α) :
      n.outline = .error fault ↔ n.postorder.findSome? fault? = some fault := by
    rw [← failure?_outline, failure?_eq_some]
  refine ⟨fun layout => ?_, hcode, ?_, houtline, n.outline_ok_iff_headed⟩
  · rw [← exists_faulty_iff]
    exact exists_congr (hcode layout)
  · simp only [← mem_postorder]
    rw [← exists_faulty_iff]
    exact exists_congr houtline

/-- Of two faults, emission reports the upper one and the outline the lower one. -/
example : let n : Node α := (empty.param (.text "a")).child ((call "cube").param (.list []))
    n.code .oneLine = .error (.statement .parametersWithoutName) ∧
      n.outline = .error .emptyList :=
  ⟨rfl, rfl⟩

end Node

end SolidScene.Scad
