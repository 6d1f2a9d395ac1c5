import SolidScene.Proofs.Scad.Quoted

/-!
# Tokens of scene source

A reader of scene source sees words and numbers, quoted texts, and single marks. Blanks separate
tokens, and so does a comment, which goes from two slashes to the end of its line. `Scans` says
that a piece of source reads as certain tokens in front of any source it may stand before; pieces
are joined by `scans_append`, and nothing is said about source that no piece covers.
-/
namespace SolidScene.Scad

/-- A token of scene source. -/
inductive Token where
  /-- A word or a number. -/
  | atom (s : String)
  /-- Quoted text, with its escapes undone. -/
  | text (s : String)
  | mark (c : Char)
deriving DecidableEq, Repr

def isBlank (c : Char) : Bool := c = ' ' || c = '\t' || c = '\n' || c = '\r'

/-- A character of a name. Every character outside the basic alphabet counts as a letter. -/
def isNameChar (c : Char) : Bool := c.isAlphanum || c = '_' || c = '$' || 128 ≤ c.toNat

/-- A character of a printed number. -/
def isNumeralChar (c : Char) : Bool := c = '-' || c = '.' || c.isDigit

def isAtomChar (c : Char) : Bool := isNameChar c || isNumeralChar c

def marks : List Char := ['(', ')', '\x7b', '\x7d', '[', ']', ',', ';', '=']

/-- The tokens of a text, if every character of it belongs to one, to a blank or to a comment. -/
def tokens? (cs : List Char) : Option (List Token) :=
  match cs with
  | [] => some []
  | c :: cs =>
    if isBlank c then tokens? cs
    else if isAtomChar c then
      (tokens? (cs.dropWhile isAtomChar)).map
        (.atom (String.ofList (c :: cs.takeWhile isAtomChar)) :: ·)
    else if marks.contains c then (tokens? cs).map (.mark c :: ·)
    else if c = '"' then
      match _h : unquote? cs with
      | none => none
      | some (s, rest) => (tokens? rest).map (.text (String.ofList s) :: ·)
    else if c = '/' && cs.head? = some '/' then tokens? (cs.dropWhile (· != '\n'))
    else none
termination_by cs.length
decreasing_by
  all_goals simp only [List.length_cons]
  · omega
  · exact Nat.lt_succ_of_le (List.dropWhile_suffix _).length_le
  · omega
  · exact Nat.lt_succ_of_lt (length_lt_of_unquote? _h)
  · exact Nat.lt_succ_of_le (List.dropWhile_suffix _).length_le

theorem not_atom_of_blank {c : Char} (h : isBlank c) : isAtomChar c = false := by
  simp only [isBlank, Bool.or_eq_true, decide_eq_true_eq] at h
  rcases h with ((rfl | rfl) | rfl) | rfl <;> decide

theorem not_blank_of_atom {c : Char} (h : isAtomChar c) : isBlank c = false := by
  cases hb : isBlank c with
  | false => rfl
  | true => rw [not_atom_of_blank hb] at h; cases h

theorem mark_plain {c : Char} (h : c ∈ marks) : isBlank c = false ∧ isAtomChar c = false := by
  simp only [marks, List.mem_cons, List.not_mem_nil, or_false] at h
  rcases h with rfl | rfl | rfl | rfl | rfl | rfl | rfl | rfl | rfl <;> decide

/-- Source that does not prolong a word or number before it. -/
def Breaks (rest : List Char) : Prop := ∀ c ∈ rest.head?, isAtomChar c = false

/-- The end of a line or of the source. -/
def EndsLine (rest : List Char) : Prop := ∀ c ∈ rest.head?, c = '\n'

theorem EndsLine.breaks {rest : List Char} (h : EndsLine rest) : Breaks rest := by
  intro c hc
  rw [h c hc]
  decide

theorem breaks_cons {c : Char} (h : isAtomChar c = false) (cs : List Char) :
    Breaks (c :: cs) := by
  intro d hd
  cases hd
  exact h

theorem tokens?_blank {c : Char} (h : isBlank c) (cs : List Char) :
    tokens? (c :: cs) = tokens? cs := by
  rw [tokens?, if_pos h]

theorem tokens?_mark {c : Char} (h : c ∈ marks) (cs : List Char) :
    tokens? (c :: cs) = (tokens? cs).map (.mark c :: ·) := by
  obtain ⟨hblank, hatom⟩ := mark_plain h
  rw [tokens?]
  simp [hblank, hatom, h]

theorem dropWhile_of_breaks {rest : List Char} (h : Breaks rest) :
    rest.dropWhile isAtomChar = rest ∧ rest.takeWhile isAtomChar = [] := by
  cases rest with
  | nil => simp
  | cons c cs => simp [h c rfl]

theorem tokens?_atom {w rest : List Char} (hne : w ≠ []) (hw : ∀ c ∈ w, isAtomChar c)
    (hrest : Breaks rest) :
    tokens? (w ++ rest) = (tokens? rest).map (.atom (String.ofList w) :: ·) := by
  obtain ⟨hdrop, htake⟩ := dropWhile_of_breaks hrest
  cases w with
  | nil => exact absurd rfl hne
  | cons c cs =>
    have hc : isAtomChar c := hw c List.mem_cons_self
    have hcs : ∀ d ∈ cs, isAtomChar d := fun d hd => hw d (List.mem_cons_of_mem c hd)
    rw [List.cons_append, tokens?, if_neg (by simp [not_blank_of_atom hc]), if_pos hc,
      List.dropWhile_append_of_pos hcs, List.takeWhile_append_of_pos hcs, hdrop, htake,
      List.append_nil]

theorem tokens?_quoted (s rest : List Char) :
    tokens? ('"' :: (escape s ++ '"' :: rest)) =
      (tokens? rest).map (.text (String.ofList s) :: ·) := by
  rw [tokens?, if_neg (by decide), if_neg (by decide), if_neg (by decide), if_pos rfl]
  split
  · next h => rw [unquote?_escape] at h; cases h
  · next h => rw [unquote?_escape] at h; cases h; rfl

theorem tokens?_comment {line rest : List Char} (hline : '\n' ∉ line) (hrest : EndsLine rest) :
    tokens? ('/' :: '/' :: (line ++ rest)) = tokens? rest := by
  have hdrop : ('/' :: (line ++ rest)).dropWhile (· != '\n') = rest := by
    rw [List.dropWhile_cons_of_pos (by decide), List.dropWhile_append_of_pos]
    · cases rest with
      | nil => rfl
      | cons c cs => simp [hrest c rfl]
    · intro c hc
      have hne : c ≠ '\n' := fun h => hline (h ▸ hc)
      simpa using hne
  rw [tokens?, if_neg (by decide), if_neg (by decide), if_neg (by decide), if_neg (by decide),
    if_pos (by simp), hdrop]

/-- The source `s` reads as the tokens `ts` in front of any source that `follow` allows. -/
def Scans (follow : List Char → Prop) (s : List Char) (ts : List Token) : Prop :=
  ∀ rest, follow rest → tokens? (s ++ rest) = (tokens? rest).map (ts ++ ·)

theorem Scans.mono {f g : List Char → Prop} {s : List Char} {ts : List Token}
    (h : Scans f s ts) (hg : ∀ rest, g rest → f rest) : Scans g s ts :=
  fun rest hrest => h rest (hg rest hrest)

theorem scans_nil (f : List Char → Prop) : Scans f [] [] := by
  intro rest _
  simp

/-- Pieces follow one another if the second is allowed after the first. -/
theorem scans_append {f g : List Char → Prop} {s u : List Char} {ts us : List Token}
    (hs : Scans f s ts) (hu : Scans g u us) (hf : ∀ rest, g rest → f (u ++ rest)) :
    Scans g (s ++ u) (ts ++ us) := by
  intro rest hrest
  rw [List.append_assoc, hs _ (hf rest hrest), hu rest hrest, Option.map_map]
  congr 1
  funext us
  simp

theorem scans_blank (f : List Char → Prop) {s : List Char} (h : ∀ c ∈ s, isBlank c) :
    Scans f s [] := by
  intro rest _
  induction s with
  | nil => simp
  | cons c cs ih =>
    rw [List.cons_append, tokens?_blank (h c List.mem_cons_self)]
    exact ih fun d hd => h d (List.mem_cons_of_mem c hd)

theorem scans_mark (f : List Char → Prop) {c : Char} (h : c ∈ marks) :
    Scans f [c] [.mark c] := by
  intro rest _
  exact tokens?_mark h rest

theorem scans_atom {w : List Char} (hne : w ≠ []) (hw : ∀ c ∈ w, isAtomChar c) :
    Scans Breaks w [.atom (String.ofList w)] := by
  intro rest hrest
  exact tokens?_atom hne hw hrest

theorem scans_quoted (f : List Char → Prop) (s : String) :
    Scans f (quoted s).toList [.text s] := by
  intro rest _
  have h := tokens?_quoted s.toList rest
  rw [String.ofList_toList] at h
  simpa [quoted] using h

theorem scans_comment {line : List Char} (h : '\n' ∉ line) :
    Scans EndsLine ('/' :: '/' :: ' ' :: line) [] := by
  intro rest hrest
  have hline : '\n' ∉ ' ' :: line := by simpa using h
  simpa using tokens?_comment hline hrest

end SolidScene.Scad
