import SolidScene.Proofs.Listwise
import SolidScene.Proofs.Outcome
import SolidScene.Scad.Layout

/-!
# What source there is

Values, heads and lines are written by readers of one another that stop at the first fault. The
lemmas here say what is written when nothing is at fault, so that later proofs take a text apart
without going through the fault handling again. They do not say which fault comes first.
-/
namespace SolidScene.Scad

variable {α : Type} [Scalar α] [Numeral α]

namespace Value

/-- The digits of a number in source; a zero of either sign has the same ones. -/
def numberText (n : α) : String := if n == 0 then "0" else Numeral.text n

theorem source_number {n : α} {t : String} :
    (number n).source = .ok t ↔ Numeral.isFinite n = true ∧ t = numberText n := by
  cases hf : Numeral.isFinite n with
  | false => simp [source, hf]
  | true =>
    cases hz : n == 0 <;> simp [source, numberText, hf, hz, eq_comm]

theorem source_list {items : List (Value α)} {t : String} :
    (list items).source = .ok t ↔
      items ≠ [] ∧ ∃ texts, sources items = .ok texts ∧
        t = "[" ++ ", ".intercalate texts ++ "]" := by
  cases items with
  | nil => simp [source]
  | cons item items =>
    simp only [source, bind_ok, pure_ok, ne_eq, reduceCtorEq, not_false_eq_true, true_and]
    exact exists_congr fun texts => and_congr_right fun _ => eq_comm

/-- Values have source together if each has source by itself. -/
theorem sources_ok {vs : List (Value α)} {texts : List String} :
    sources vs = .ok texts ↔ List.Forall₂ (fun v t => v.source = .ok t) vs texts := by
  induction vs generalizing texts with
  | nil => simp [sources, eq_comm]
  | cons v vs ih =>
    simp only [sources, bind_ok, pure_ok, List.forall₂_cons_left_iff, ih]
    constructor
    · rintro ⟨t, ht, ts, hts, rfl⟩
      exact ⟨t, ts, ht, hts, rfl⟩
    · rintro ⟨t, ts, ht, hts, rfl⟩
      exact ⟨t, ht, ts, hts, rfl⟩

theorem source_of_mem {vs : List (Value α)} {texts : List String} (h : sources vs = .ok texts)
    {v : Value α} (hv : v ∈ vs) : ∃ t, v.source = .ok t :=
  related_of_mem (sources_ok.mp h) hv

end Value

namespace Node

theorem keywordSources_ok {ks : List (String × Value α)} {texts : List String} :
    keywordSources ks = .ok texts ↔
      List.Forall₂ (fun k t => ∃ u, k.2.source = .ok u ∧ t = k.1 ++ " = " ++ u) ks texts := by
  induction ks generalizing texts with
  | nil => simp [keywordSources, eq_comm]
  | cons k ks ih =>
    obtain ⟨key, v⟩ := k
    simp only [keywordSources, bind_ok, pure_ok, List.forall₂_cons_left_iff, ih]
    constructor
    · rintro ⟨u, hu, ts, hts, rfl⟩
      exact ⟨_, ts, ⟨u, hu, rfl⟩, hts, rfl⟩
    · rintro ⟨_, ts, ⟨u, hu, rfl⟩, hts, rfl⟩
      exact ⟨u, hu, ts, hts, rfl⟩

theorem keyword_source_of_mem {ks : List (String × Value α)} {texts : List String}
    (h : keywordSources ks = .ok texts) {k : String × Value α} (hk : k ∈ ks) :
    ∃ t, k.2.source = .ok t := by
  obtain ⟨_, u, hu, -⟩ := related_of_mem (keywordSources_ok.mp h) hk
  exact ⟨u, hu⟩

theorem head_of_unnamed {n : Node α} {h : String} (hname : n.name = none) :
    n.head = .ok h ↔ n.parameters = [] ∧ n.keywords = [] ∧ h = "" := by
  obtain ⟨name, ps, ks, cs, c⟩ := n
  cases hname
  cases ps <;> cases ks <;> simp [head, check, eq_comm, throw, throwThe, MonadExceptOf.throw, pure,
    Except.pure]

theorem head_of_named {n : Node α} {name h : String} (hname : n.name = some name) :
    n.head = .ok h ↔
      name ≠ "" ∧ ∃ ps ks, Value.sources n.parameters = .ok ps ∧
        keywordSources n.keywords = .ok ks ∧
        h = name ++ "(" ++ ", ".intercalate (ps ++ ks) ++ ")" := by
  obtain ⟨name', ps, ks, cs, c⟩ := n
  cases hname
  by_cases he : name = ""
  · simp [head, check, he, throw, throwThe, MonadExceptOf.throw]
  · simp only [head, check, he, if_false, bind_ok, pure_ok, ne_eq, not_false_eq_true, true_and]
    constructor
    · rintro ⟨ps, hps, ks, hks, rfl⟩
      exact ⟨ps, ks, hps, hks, rfl⟩
    · rintro ⟨ps, ks, hps, hks, rfl⟩
      exact ⟨ps, hps, ks, hks, rfl⟩

theorem lines_ok {indent top : String} {simplify comments : Bool} {n : Node α}
    {ls : List String} :
    n.lines indent top simplify comments = .ok ls ↔
      ∃ head inner, n.head = .ok head ∧
        childLines indent simplify comments n.children = .ok inner ∧
        ls = (if comments then n.remarks else []).map (top ++ ·) ++
          [top ++ (head ++ n.opening simplify head)] ++ inner.map (top ++ indent ++ ·) ++
          (n.closing simplify).map (top ++ ·) := by
  obtain ⟨name, ps, ks, cs, c⟩ := n
  simp only [lines, bind_ok, pure_ok]
  constructor
  · rintro ⟨head, hhead, inner, hinner, rfl⟩
    exact ⟨head, inner, hhead, hinner, rfl⟩
  · rintro ⟨head, inner, hhead, hinner, rfl⟩
    exact ⟨head, hhead, inner, hinner, rfl⟩

theorem childLines_ok {indent : String} {simplify comments : Bool} {ns : List (Node α)}
    {ls : List String} :
    childLines indent simplify comments ns = .ok ls ↔
      ∃ parts, List.Forall₂ (fun n part => n.lines indent "" simplify comments = .ok part)
        ns parts ∧ ls = parts.flatten := by
  induction ns generalizing ls with
  | nil => simp [childLines, eq_comm]
  | cons n ns ih =>
    simp only [childLines, bind_ok, pure_ok, List.forall₂_cons_left_iff, ih]
    constructor
    · rintro ⟨first, hfirst, _, ⟨parts, hparts, rfl⟩, rfl⟩
      exact ⟨first :: parts, ⟨first, parts, hfirst, hparts, rfl⟩, rfl⟩
    · rintro ⟨_, ⟨first, parts, hfirst, hparts, rfl⟩, rfl⟩
      exact ⟨first, hfirst, _, ⟨parts, hparts, rfl⟩, rfl⟩

theorem code_ok {n : Node α} {layout : Layout} {text : String} :
    n.code layout = .ok text ↔
      if layout.inline then
        ∃ ls, n.lines "" "" layout.simplify false = .ok ls ∧ text = " ".intercalate ls
      else
        ∃ ls, n.lines layout.indent layout.topIndent layout.simplify layout.comments = .ok ls ∧
          text = "\n".intercalate ls := by
  unfold code
  split <;> simp only [bind_ok, pure_ok] <;>
    exact exists_congr fun _ => and_congr_right fun _ => eq_comm

end Node

end SolidScene.Scad
