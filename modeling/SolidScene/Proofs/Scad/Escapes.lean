import Mathlib.Algebra.Ring.Parity
import Mathlib.Data.List.Induction
import SolidScene.Proofs.Scad.Quoted

/-!
# Escapes inside quoted text

Escaping runs through the whole text once for each escape, and every run but the first meets
backslashes that an earlier one has written. The outcome is nevertheless that of a single pass: each
character is replaced on its own. A quote in the outcome stands behind an odd run of backslashes,
and the outcome as a whole ends with an even one, so that the first quote behind an even run is the
closing one. What follows it is left open.
-/
namespace SolidScene.Scad

/-- A character of quoted text on its own: five have an escape of two characters. -/
def escapedChar : Char → List Char
  | '\\' => ['\\', '\\']
  | '"' => ['\\', '"']
  | '\n' => ['\\', 'n']
  | '\r' => ['\\', 'r']
  | '\t' => ['\\', 't']
  | c => [c]

/-- The text with its escapes undone from the left, if every backslash begins one of the five. -/
def unescaped? : List Char → Option (List Char)
  | [] => some []
  | '\\' :: '\\' :: cs => (unescaped? cs).map ('\\' :: ·)
  | '\\' :: '"' :: cs => (unescaped? cs).map ('"' :: ·)
  | '\\' :: 'n' :: cs => (unescaped? cs).map ('\n' :: ·)
  | '\\' :: 'r' :: cs => (unescaped? cs).map ('\r' :: ·)
  | '\\' :: 't' :: cs => (unescaped? cs).map ('\t' :: ·)
  | '\\' :: _ => none
  | c :: cs => (unescaped? cs).map (c :: ·)

/-- How many backslashes a text ends with. -/
def backslashes (s : List Char) : Nat := (s.reverse.takeWhile (· == '\\')).length

/-! ## One pass -/

/-- A character stands for itself and needs no escape, or there are a backslash and another visible
character for it. -/
theorem escapedChar_cases (c : Char) :
    escapedChar c = [c] ∧ c ∉ ['\\', '"', '\n', '\r', '\t'] ∨
      ∃ letter ∉ ['\n', '\r', '\t'], escapedChar c = ['\\', letter] := by
  unfold escapedChar
  split
  · exact .inr ⟨'\\', by decide, rfl⟩
  · exact .inr ⟨'"', by decide, rfl⟩
  · exact .inr ⟨'n', by decide, rfl⟩
  · exact .inr ⟨'r', by decide, rfl⟩
  · exact .inr ⟨'t', by decide, rfl⟩
  · next hback hquote hline hreturn htab =>
    refine .inl ⟨rfl, ?_⟩
    simp only [List.mem_cons, List.not_mem_nil, or_false, not_or]
    exact ⟨hback, hquote, hline, hreturn, htab⟩

theorem escapeOf_eq (c : Char) : escapeOf c = escapedChar c := by
  cases h : escapes.lookup c with
  | some letter =>
    rw [escapeOf_special (lookup_escapes h)]
    have hmem := lookup_escapes h
    simp only [escapes, List.mem_cons, Prod.mk.injEq, List.not_mem_nil, or_false] at hmem
    rcases hmem with ⟨rfl, rfl⟩ | ⟨rfl, rfl⟩ | ⟨rfl, rfl⟩ | ⟨rfl, rfl⟩ | ⟨rfl, rfl⟩ <;> rfl
  | none =>
    have hne := ne_of_lookup_escapes h
    simp only [escapes, List.forall_mem_cons] at hne
    obtain ⟨hback, hquote, hline, hreturn, htab, -⟩ := hne
    rw [escapeOf, h, escapedChar.eq_6 c hback hquote hline hreturn htab]

theorem escape_eq (s : List Char) : escape s = s.flatMap escapedChar := by
  rw [escape_eq_flatMap, funext escapeOf_eq]

theorem escape_concat (s : List Char) (c : Char) : escape (s ++ [c]) = escape s ++ escapedChar c := by
  rw [escape_eq, escape_eq, List.flatMap_append, List.flatMap_singleton]

/-! ## Reading back -/

theorem unescaped?_cons {c : Char} (h : c ≠ '\\') (cs : List Char) :
    unescaped? (c :: cs) = (unescaped? cs).map (c :: ·) := by
  conv_lhs => unfold unescaped?
  split <;> simp_all

theorem unescaped?_escapedChar (c : Char) (cs : List Char) :
    unescaped? (escapedChar c ++ cs) = (unescaped? cs).map (c :: ·) := by
  unfold escapedChar
  split
  · rfl
  · rfl
  · rfl
  · rfl
  · rfl
  · next hback _ _ _ _ => exact unescaped?_cons hback cs

theorem unescaped?_escape (s : List Char) : unescaped? (escape s) = some s := by
  rw [escape_eq]
  induction s with
  | nil => rfl
  | cons c cs ih => rw [List.flatMap_cons, unescaped?_escapedChar, ih, Option.map_some]

/-! ## Backslashes before quotes -/

theorem backslashes_concat_backslash (s : List Char) :
    backslashes (s ++ ['\\']) = backslashes s + 1 := by
  simp [backslashes]

theorem backslashes_concat {c : Char} (h : c ≠ '\\') (s : List Char) :
    backslashes (s ++ [c]) = 0 := by
  simp [backslashes, h]

/-- Escaped text does not end inside an escape. -/
theorem even_backslashes_escape (s : List Char) : Even (backslashes (escape s)) := by
  induction s using List.reverseRecOn with
  | nil => exact ⟨0, rfl⟩
  | append_singleton s c ih =>
    rw [escape_concat]
    rcases escapedChar_cases c with ⟨hself, hplain⟩ | ⟨letter, -, hescaped⟩
    · have hback : c ≠ '\\' := fun h => hplain (h ▸ List.mem_cons_self)
      rw [hself, backslashes_concat hback]
      exact ⟨0, rfl⟩
    · rw [hescaped, show escape s ++ ['\\', letter] = escape s ++ ['\\'] ++ [letter] by simp]
      -- The run goes on only if the escape is that of a backslash, and then by two.
      by_cases hback : letter = '\\'
      · rw [hback, backslashes_concat_backslash, backslashes_concat_backslash]
        obtain ⟨n, hn⟩ := ih
        exact ⟨n + 1, by omega⟩
      · rw [backslashes_concat hback]
        exact ⟨0, rfl⟩

/-- The one quote in what stands for a character is that of its escape. -/
theorem eq_of_escapedChar_eq {c : Char} {before after : List Char}
    (h : escapedChar c = before ++ '"' :: after) : before = ['\\'] := by
  rcases escapedChar_cases c with ⟨hself, hplain⟩ | ⟨letter, -, hescaped⟩
  · rw [hself] at h
    obtain ⟨rfl, hc⟩ | ⟨rest, -, hrest⟩ := List.cons_eq_append_iff.mp h
    · cases hc
      exact absurd (by decide) hplain
    · simp at hrest
  · rw [hescaped] at h
    obtain ⟨rfl, hc⟩ | ⟨rest, rfl, hrest⟩ := List.cons_eq_append_iff.mp h
    · cases hc
    · obtain ⟨rfl, -⟩ | ⟨_, -, hnil⟩ := List.cons_eq_append_iff.mp hrest
      · rfl
      · simp at hnil

/-- Every quote in escaped text is escaped itself. -/
theorem odd_backslashes_of_quote {s before after : List Char}
    (h : escape s = before ++ '"' :: after) : Odd (backslashes before) := by
  induction s using List.reverseRecOn generalizing after with
  | nil => simp [escape_eq] at h
  | append_singleton s c ih =>
    rw [escape_concat] at h
    -- The quote stands in what the last character is replaced by, or further left.
    obtain ⟨rest, rfl, hlast⟩ | ⟨rest, hinside, hrest⟩ := List.append_eq_append_iff.mp h
    · rw [eq_of_escapedChar_eq hlast, backslashes_concat_backslash]
      exact (even_backslashes_escape s).add_one
    · cases rest with
      | nil =>
        have hbefore : [] = ['\\'] := eq_of_escapedChar_eq hrest.symm
        cases hbefore
      | cons d rest =>
        cases hrest
        exact ih hinside

/-! ## Quoted values -/

/-- A text that stands for `s` between quotes. -/
structure StandsFor (s inside : List Char) : Prop where
  visible : ∀ c ∈ ['\n', '\r', '\t'], c ∉ inside
  escaped : ∀ before after, inside = before ++ '"' :: after → Odd (backslashes before)
  closing : Even (backslashes inside)
  first : ∀ rest before after, inside ++ '"' :: rest = before ++ '"' :: after →
    Even (backslashes before) → inside.length ≤ before.length
  undone : unescaped? inside = some s
  closes : ∀ rest, unquote? (inside ++ '"' :: rest) = some (s, rest)

theorem not_mem_escape (s : List Char) {c : Char} (hc : c ∈ ['\n', '\r', '\t']) :
    c ∉ escape s := by
  rw [escape_eq, List.mem_flatMap]
  rintro ⟨d, -, hd⟩
  rcases escapedChar_cases d with ⟨hself, hplain⟩ | ⟨letter, hletter, hescaped⟩
  · rw [hself, List.mem_singleton] at hd
    subst hd
    exact hplain (List.mem_cons_of_mem _ (List.mem_cons_of_mem _ hc))
  · rw [hescaped, List.mem_cons, List.mem_singleton] at hd
    rcases hd with rfl | rfl
    · exact absurd hc (by decide)
    · exact hletter hc

/-- No quote in front of the closing one stands behind an even run of backslashes. -/
theorem length_le_of_even {s rest before after : List Char}
    (h : escape s ++ '"' :: rest = before ++ '"' :: after) (heven : Even (backslashes before)) :
    (escape s).length ≤ before.length := by
  obtain ⟨between, rfl, -⟩ | ⟨between, hinside, hbetween⟩ := List.append_eq_append_iff.mp h
  · rw [List.length_append]
    omega
  · cases between with
    | nil => rw [hinside, List.append_nil]
    | cons d between =>
      cases hbetween
      exact absurd heven (Nat.not_even_iff_odd.mpr (odd_backslashes_of_quote hinside))

theorem standsFor_escape (s : List Char) : StandsFor s (escape s) where
  visible _ hc := not_mem_escape s hc
  escaped _ _ h := odd_backslashes_of_quote h
  closing := even_backslashes_escape s
  first _ _ _ h heven := length_le_of_even h heven
  undone := unescaped?_escape s
  closes := unquote?_escape s

/-- Escaping text is escaping each of its characters on its own. What comes out stands for the text
between quotes, and a quoted value is read back up to its closing quote, whatever follows it. -/
theorem escapes_each_char (s : String) :
    escape s.toList = s.toList.flatMap escapedChar ∧ StandsFor s.toList (escape s.toList) ∧
      ∀ rest, ∃ body, (quoted s).toList ++ rest = '"' :: body ∧
        unquote? body = some (s.toList, rest) := by
  refine ⟨escape_eq _, standsFor_escape _, fun rest => ?_⟩
  refine ⟨escape s.toList ++ '"' :: rest, ?_, unquote?_escape _ rest⟩
  simp [quoted]

/-- A backslash before a quote and one before a letter are escaped like any other. -/
example : escape ['\\', '"', '\\', 'n', '\n'] =
    ['\\', '\\', '\\', '"', '\\', '\\', 'n', '\\', 'n'] := by decide

end SolidScene.Scad
