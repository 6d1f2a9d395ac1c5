import SolidScene.Proofs.Scad.Source
import SolidScene.Proofs.Scad.Statement
import SolidScene.Proofs.Scad.Tree

/-!
# What a statement tree says

The calls of a statement tree, without regard to any layout: a node with a name is one call, which
governs what its children say, and a node without a name says what its children say. `tokens` is
the one sequence of tokens that every layout writes, up to the choice of block or single statement
around a single child; `readsBack` says that it is read back. Comments are not said.
-/
namespace SolidScene.Scad

variable {α : Type}

/-- The text is made of the sign, digits and points that a number is read from. -/
def PlainNumerals (α : Type) [Scalar α] [Numeral α] : Prop :=
  ∀ n : α, Numeral.isFinite n = true → (n == 0) = false → isNumeral (Numeral.text n) = true

namespace Value

variable [Scalar α] [Numeral α]

mutual

/-- The value that is read: numbers by their digits, texts without escapes, lists as nested. -/
def datum : Value α → Datum
  | number n => .number (numberText n)
  | text s => .text s
  | list items => .list (data items)

def data : List (Value α) → List Datum
  | [] => []
  | v :: vs => v.datum :: data vs

end

mutual

def tokens : Value α → List Token
  | number n => [.atom (numberText n)]
  | text s => [.text s]
  | list items => .mark '[' :: ([Token.mark ','].intercalate (tokensEach items) ++ [.mark ']'])

def tokensEach : List (Value α) → List (List Token)
  | [] => []
  | v :: vs => v.tokens :: tokensEach vs

end

theorem data_eq_map (vs : List (Value α)) : data vs = vs.map datum :=
  eq_map_of_cons rfl (fun _ _ => rfl) vs

theorem tokensEach_eq_map (vs : List (Value α)) : tokensEach vs = vs.map tokens :=
  eq_map_of_cons rfl (fun _ _ => rfl) vs

end Value

namespace Node

/-- Every name that is present and every key, at any depth, is a word. -/
def WellNamed (n : Node α) : Prop :=
  ∀ m ∈ n.nodes, (∀ name ∈ m.name, isName name = true) ∧ ∀ k ∈ m.keywords, isName k.1 = true

variable [Scalar α] [Numeral α]

/-- The arguments of a call, positional ones first. -/
def arguments (n : Node α) : List (Option String × Datum) :=
  n.parameters.map (fun v => (none, v.datum)) ++ n.keywords.map fun k => (some k.1, k.2.datum)

mutual

/-- The calls that a tree stands for. -/
def statements : Node α → List Statement
  | ⟨name, ps, ks, cs, c⟩ =>
    match name with
    | some word => [.call word (arguments ⟨name, ps, ks, cs, c⟩) (statementsOf cs)]
    | none => statementsOf cs

def statementsOf : List (Node α) → List Statement
  | [] => []
  | n :: ns => n.statements ++ statementsOf ns

end

def argumentTokens (n : Node α) : List (List Token) :=
  n.parameters.map Value.tokens ++
    n.keywords.map fun k => .atom k.1 :: .mark '=' :: k.2.tokens

def headTokens (n : Node α) : List Token :=
  match n.name with
  | none => []
  | some name =>
    .atom name :: .mark '(' :: ([Token.mark ','].intercalate n.argumentTokens ++ [.mark ')'])

mutual

/-- The tokens of a tree, as its lines are read whatever the layout. -/
def tokens (simplify : Bool) : Node α → List Token
  | ⟨name, ps, ks, cs, c⟩ =>
    headTokens ⟨name, ps, ks, cs, c⟩ ++
      if cs.isEmpty then [.mark ';']
      else if simplify && cs.length == 1 then tokensOf simplify cs
      else .mark '\x7b' :: (tokensOf simplify cs ++ [.mark '\x7d'])

def tokensOf (simplify : Bool) : List (Node α) → List Token
  | [] => []
  | n :: ns => n.tokens simplify ++ tokensOf simplify ns

end

theorem statementsOf_eq_flatMap (ns : List (Node α)) : statementsOf ns = ns.flatMap statements :=
  eq_flatMap_of_cons rfl (fun _ _ => rfl) ns

theorem statements_of_unnamed {n : Node α} (h : n.name = none) :
    n.statements = n.children.flatMap statements := by
  obtain ⟨name, ps, ks, cs, c⟩ := n
  cases h
  exact statementsOf_eq_flatMap cs

theorem statements_of_named {n : Node α} {name : String} (h : n.name = some name) :
    n.statements = [.call name n.arguments (n.children.flatMap statements)] := by
  obtain ⟨name', ps, ks, cs, c⟩ := n
  cases h
  rw [statements, statementsOf_eq_flatMap]

theorem tokensOf_eq_flatMap (simplify : Bool) (ns : List (Node α)) :
    tokensOf simplify ns = ns.flatMap (tokens simplify) :=
  eq_flatMap_of_cons rfl (fun _ _ => rfl) ns

def bodyTokens (n : Node α) (simplify : Bool) : List Token :=
  if n.children.isEmpty then [.mark ';']
  else if simplify && n.children.length == 1 then n.children.flatMap (tokens simplify)
  else .mark '\x7b' :: (n.children.flatMap (tokens simplify) ++ [.mark '\x7d'])

theorem tokens_eq (n : Node α) (simplify : Bool) :
    n.tokens simplify = n.headTokens ++ n.bodyTokens simplify := by
  obtain ⟨name, ps, ks, cs, c⟩ := n
  rw [tokens, tokensOf_eq_flatMap, bodyTokens]

end Node

end SolidScene.Scad
