import SolidScene.Scad.Value

/-!
# Reading quoted text back

Escaping goes through the whole text once for each escape. Because the backslash comes first, this
is the same as escaping every character on its own, and a reader that undoes the escapes from the
left stops exactly at the closing quote. Nothing is assumed about what follows that quote.
-/
namespace SolidScene.Scad

/-- What stands for one character inside quoted text. -/
def escapeOf (c : Char) : List Char :=
  match escapes.lookup c with
  | some letter => ['\\', letter]
  | none => [c]

/-- The character that a backslash and a letter stand for. -/
def unescape? (letter : Char) : Option Char :=
  (escapes.find? (·.2 == letter)).map (·.1)

/-- The text up to the closing quote with its escapes undone, and what follows the quote. -/
def unquote? : List Char → Option (List Char × List Char)
  | [] => none
  | '"' :: rest => some ([], rest)
  | '\\' :: letter :: cs => do
    let c ← unescape? letter
    let (s, rest) ← unquote? cs
    return (c :: s, rest)
  | c :: cs => do
    let (s, rest) ← unquote? cs
    return (c :: s, rest)

theorem escapeOf_special {c letter : Char} (h : (c, letter) ∈ escapes) :
    escapeOf c = ['\\', letter] := by
  simp only [escapes, List.mem_cons, Prod.mk.injEq, List.not_mem_nil, or_false] at h
  rcases h with ⟨rfl, rfl⟩ | ⟨rfl, rfl⟩ | ⟨rfl, rfl⟩ | ⟨rfl, rfl⟩ | ⟨rfl, rfl⟩ <;> rfl

theorem lookup_escapes {c letter : Char} (h : escapes.lookup c = some letter) :
    (c, letter) ∈ escapes := by
  obtain ⟨l, r, hlr, -⟩ := List.lookup_eq_some_iff.mp h
  rw [hlr]
  exact List.mem_append_right _ List.mem_cons_self

theorem ne_of_lookup_escapes {c : Char} (h : escapes.lookup c = none) :
    ∀ e ∈ escapes, c ≠ e.1 := by
  intro e he hc
  have hne := List.lookup_eq_none_iff.mp h e he
  simp [hc] at hne

/-- Escaping the whole text five times over is escaping each character once. -/
theorem escape_eq_flatMap (s : List Char) : escape s = s.flatMap escapeOf := by
  have hs : escape s = escape (s.flatMap fun c => [c]) := by rw [List.flatMap_singleton']
  rw [hs, escape]
  simp only [escapes, List.foldl_cons, List.foldl_nil, substitute, List.flatMap_assoc]
  congr 1
  funext c
  cases h : escapes.lookup c with
  | some letter =>
    rw [escapeOf_special (lookup_escapes h)]
    have hm := lookup_escapes h
    simp only [escapes, List.mem_cons, Prod.mk.injEq, List.not_mem_nil, or_false] at hm
    rcases hm with ⟨rfl, rfl⟩ | ⟨rfl, rfl⟩ | ⟨rfl, rfl⟩ | ⟨rfl, rfl⟩ | ⟨rfl, rfl⟩ <;> rfl
  | none =>
    have hne := ne_of_lookup_escapes h
    simp only [escapes, List.mem_cons, List.not_mem_nil, or_false, forall_eq_or_imp,
      forall_eq] at hne
    obtain ⟨h1, h2, h3, h4, h5⟩ := hne
    simp [escapeOf, h, h1, h2, h3, h4, h5]

theorem unescape?_of_mem {c letter : Char} (h : (c, letter) ∈ escapes) :
    unescape? letter = some c := by
  simp only [escapes, List.mem_cons, Prod.mk.injEq, List.not_mem_nil, or_false] at h
  rcases h with ⟨rfl, rfl⟩ | ⟨rfl, rfl⟩ | ⟨rfl, rfl⟩ | ⟨rfl, rfl⟩ | ⟨rfl, rfl⟩ <;> rfl

/-- One escaped character is read as that character, whatever comes next. -/
theorem unquote?_escapeOf (c : Char) (cs : List Char) :
    unquote? (escapeOf c ++ cs) = (unquote? cs).map fun r => (c :: r.1, r.2) := by
  cases h : escapes.lookup c with
  | some letter =>
    rw [escapeOf_special (lookup_escapes h)]
    simp only [List.cons_append, List.nil_append, unquote?, unescape?_of_mem (lookup_escapes h)]
    cases unquote? cs <;> rfl
  | none =>
    have hquote : c ≠ '"' := ne_of_lookup_escapes h ('"', '"') (by simp [escapes])
    have hback : c ≠ '\\' := ne_of_lookup_escapes h ('\\', '\\') (by simp [escapes])
    simp only [escapeOf, h, List.cons_append, List.nil_append]
    rw [unquote?.eq_4 c cs hquote (fun _ _ hc => absurd hc hback)]
    cases unquote? cs <;> rfl

/-- Reading back what was escaped stops at the closing quote. -/
theorem unquote?_escape (s rest : List Char) :
    unquote? (escape s ++ '"' :: rest) = some (s, rest) := by
  rw [escape_eq_flatMap]
  induction s with
  | nil => simp [unquote?]
  | cons c cs ih => rw [List.flatMap_cons, List.append_assoc, unquote?_escapeOf, ih]; rfl

theorem length_lt_of_unquote? {cs s rest : List Char} (h : unquote? cs = some (s, rest)) :
    rest.length < cs.length := by
  induction cs using unquote?.induct generalizing s with
  | case1 => simp [unquote?] at h
  | case2 cs =>
    simp only [unquote?, Option.some.injEq, Prod.mk.injEq] at h
    simp [h.2]
  | case3 letter cs ih =>
    simp only [unquote?, Option.bind_eq_bind, Option.bind_eq_some_iff] at h
    obtain ⟨c, -, inner, hinner, he⟩ := h
    cases he
    have hlt : inner.2.length < cs.length := ih hinner
    simp only [List.length_cons]
    omega
  | case4 c cs hq hb ih =>
    rw [unquote?.eq_4 c cs hq hb] at h
    simp only [Option.bind_eq_bind, Option.bind_eq_some_iff] at h
    obtain ⟨inner, hinner, he⟩ := h
    cases he
    have hlt : inner.2.length < cs.length := ih hinner
    simp only [List.length_cons]
    omega

end SolidScene.Scad
