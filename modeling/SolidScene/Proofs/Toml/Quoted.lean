import SolidScene.Toml.Quoted

/-!
# Reading quoted text of TOML back

Whatever form a text is written in, reading ends at the closing quotes and gives the text back. The
quotes inside basic and literal text over several lines are where this is decided: up to two in a
row stand for themselves, also right before the three that close.
-/
namespace SolidScene.Toml

/-! ## Inside the quotes -/

/-- How many quotes in a row may stand for themselves. -/
def QuoteForm.slack (f : QuoteForm) : Nat := if f.severalLines then 2 else 0

/-- The text `w` inside quotes stands for `s`, behind so many quotes that stand for themselves. -/
inductive Spelled (f : QuoteForm) : Nat → List Char → List Char → Prop
  | nil {run : Nat} : Spelled f run [] []
  | quote {run : Nat} {s w : List Char} : run < f.slack → Spelled f (run + 1) s w →
      Spelled f run (f.quote :: s) (f.quote :: w)
  | char {run : Nat} {c d : Char} {s w : List Char} (piece : List Char) : d ≠ f.quote →
      (∀ rest, piece? f (d :: piece ++ rest) = some ([c], rest)) → Spelled f 0 s w →
      Spelled f run (c :: s) (d :: piece ++ w)

section Closing

variable {f : QuoteForm} {run : Nat} {s w rest : List Char}

/-- How many quotes a text starts with. -/
def leadingQuotes (f : QuoteForm) (cs : List Char) : Nat := (cs.takeWhile (· == f.quote)).length

theorem leadingQuotes_quote (cs : List Char) :
    leadingQuotes f (f.quote :: cs) = leadingQuotes f cs + 1 := by
  simp [leadingQuotes]

theorem leadingQuotes_of_ne {c : Char} (h : c ≠ f.quote) (cs : List Char) :
    leadingQuotes f (c :: cs) = 0 := by
  simp [leadingQuotes, h]

theorem leadingQuotes_replicate (n : Nat) (h : rest.head? ≠ some f.quote) :
    leadingQuotes f (List.replicate n f.quote ++ rest) = n := by
  induction n with
  | zero =>
    cases rest with
    | nil => rfl
    | cons c cs => exact leadingQuotes_of_ne (fun hc => h (congrArg some hc)) cs
  | succ n ih => rw [List.replicate_succ, List.cons_append, leadingQuotes_quote, ih]

theorem mark_eq (f : QuoteForm) : f.mark = List.replicate (f.slack + 1) f.quote := by
  cases f with
  | mk literal several => cases several <;> rfl

theorem closing?_eq (f : QuoteForm) (cs : List Char) :
    closing? f cs = if leadingQuotes f cs < f.slack + 1 then none else
      some (List.replicate (min (leadingQuotes f cs - (f.slack + 1)) f.slack) f.quote,
        cs.drop (min (leadingQuotes f cs - (f.slack + 1)) f.slack + (f.slack + 1))) := by
  cases f with
  | mk literal several =>
    cases several with
    | false =>
      have hnone (n : Nat) : min (n - (0 + 1)) 0 = 0 := by omega
      simp only [QuoteForm.slack, Bool.false_eq_true, if_false, hnone]
      rfl
    | true => rfl

theorem closing?_of_leadingQuotes {cs : List Char} (h : leadingQuotes f cs ≤ f.slack) :
    closing? f cs = none := by
  rw [closing?_eq, if_pos (by omega)]

theorem closing?_mark {k : Nat} (hk : k ≤ f.slack) (hrest : rest.head? ≠ some f.quote) :
    closing? f (List.replicate k f.quote ++ (f.mark ++ rest)) =
      some (List.replicate k f.quote, rest) := by
  have hrun : List.replicate k f.quote ++ (f.mark ++ rest) =
      List.replicate (k + (f.slack + 1)) f.quote ++ rest := by
    rw [mark_eq, ← List.append_assoc, List.replicate_append_replicate]
  have hextra : min (k + (f.slack + 1) - (f.slack + 1)) f.slack = k := by omega
  rw [closing?_eq, hrun, leadingQuotes_replicate _ hrest, if_neg (by omega), hextra,
    List.drop_left' List.length_replicate]

/-- Quotes inside the text do not close it, unless nothing but them is left. -/
theorem Spelled.leadingQuotes (h : Spelled f run s w) (hrun : run ≤ f.slack) (rest : List Char) :
    (∃ k, s = List.replicate k f.quote ∧ w = List.replicate k f.quote ∧ run + k ≤ f.slack) ∨
      run + leadingQuotes f (w ++ rest) ≤ f.slack := by
  induction h with
  | nil => exact .inl ⟨0, rfl, rfl, hrun⟩
  | @quote run s w hslack _ ih =>
    rcases ih hslack with ⟨k, rfl, rfl, hk⟩ | hk
    · exact .inl ⟨k + 1, rfl, rfl, by omega⟩
    · rw [List.cons_append, leadingQuotes_quote]
      exact .inr (by omega)
  | @char run c d s w piece hne _ _ _ =>
    rw [List.cons_append, List.cons_append, leadingQuotes_of_ne hne]
    exact .inr hrun

theorem quotedBody?_of_piece {cs piece : List Char} (hclosing : closing? f cs = none)
    (hpiece : piece? f cs = some (piece, rest)) :
    quotedBody? f cs = (quotedBody? f rest).map fun r => (piece ++ r.1, r.2) := by
  rw [quotedBody?, hclosing]
  simp only
  split
  · next h =>
    rw [hpiece] at h
    cases h
  · next h =>
    rw [hpiece] at h
    cases h
    rfl

/-- The quote of a form, where it does not close. -/
theorem piece?_quote (f : QuoteForm) (cs : List Char) :
    piece? f (f.quote :: cs) = some ([f.quote], cs) := by
  cases f with
  | mk literal several => cases literal <;> rfl

/-- Reading gives back what is spelled inside the quotes. -/
theorem quotedBody?_spelled (h : Spelled f run s w) (hrun : run ≤ f.slack)
    (hrest : rest.head? ≠ some f.quote) :
    quotedBody? f (w ++ (f.mark ++ rest)) = some (s, rest) := by
  have hclosed {k : Nat} (hk : k ≤ f.slack) :
      quotedBody? f (List.replicate k f.quote ++ (f.mark ++ rest)) =
        some (List.replicate k f.quote, rest) := by
    rw [quotedBody?, closing?_mark hk hrest]
  induction h with
  | nil => exact hclosed (Nat.zero_le _)
  | @quote run s w hslack h ih =>
    rcases (Spelled.quote hslack h).leadingQuotes hrun (f.mark ++ rest) with ⟨k, hs, hw, hk⟩ | hk
    · rw [hs, hw]
      exact hclosed (by omega)
    · rw [List.cons_append] at hk ⊢
      rw [quotedBody?_of_piece (closing?_of_leadingQuotes (by omega)) (piece?_quote f _),
        ih hslack]
      rfl
  | @char run c d s w piece hne hpiece h ih =>
    have hopen : closing? f (d :: piece ++ w ++ (f.mark ++ rest)) = none :=
      closing?_of_leadingQuotes (by
        rw [List.cons_append, List.cons_append, leadingQuotes_of_ne hne]
        exact Nat.zero_le _)
    rw [List.append_assoc] at hopen ⊢
    rw [quotedBody?_of_piece hopen (hpiece _), ih (Nat.zero_le _)]
    rfl

end Closing

/-! ## Characters -/

theorem newline?_of_not_control {c : Char} (h : isControl c = false) (rest : List Char) :
    newline? (c :: rest) = none := by
  unfold newline?
  split
  · next heq =>
    cases heq
    exact absurd h (by decide)
  · next heq =>
    cases heq
    exact absurd h (by decide)
  · rfl

/-- A character that is not a control character stands for itself, but for the backslash. -/
theorem piece?_plain {f : QuoteForm} {c : Char} (hescape : (c == '\\' && !f.isLiteral) = false)
    (hcontrol : isControl c = false) (rest : List Char) :
    piece? f (c :: rest) = some ([c], rest) := by
  rw [piece?, hescape, newline?_of_not_control hcontrol, hcontrol]
  rfl

theorem charOfHex?_ofByte : ∀ n < 128,
    charOfHex? (['0', '0'] ++ (Digits.ofByte n).map Char.toUpper) = some (Char.ofNat n) := by
  decide

theorem lt_of_isControl {c : Char} (h : isControl c = true) : c.toNat < 128 := by
  simp only [isControl, Bool.or_eq_true, Bool.and_eq_true, decide_eq_true_eq, beq_iff_eq] at h
  omega

theorem backslash_ne_quote (f : QuoteForm) : '\\' ≠ f.quote := by
  cases f with
  | mk literal several => cases literal <;> simp [QuoteForm.quote]

theorem Spelled.plain {f : QuoteForm} {c : Char} {run : Nat} {s w : List Char}
    (hquote : c ≠ f.quote) (hescape : (c == '\\' && !f.isLiteral) = false)
    (hcontrol : isControl c = false) (h : Spelled f 0 s w) : Spelled f run (c :: s) (c :: w) :=
  .char [] hquote (piece?_plain hescape hcontrol) h

theorem piece?_ofByte (several : Bool) {c : Char} (h : isControl c = true) (rest : List Char) :
    piece? ⟨false, several⟩ ('\\' :: 'u' :: '0' :: '0' ::
      ((Digits.ofByte c.toNat).map Char.toUpper ++ rest)) = some ([c], rest) := by
  have hread := charOfHex?_ofByte c.toNat (lt_of_isControl h)
  rw [Char.ofNat_toNat] at hread
  have hescape : escape? ('u' :: '0' :: '0' :: ((Digits.ofByte c.toNat).map Char.toUpper ++ rest)) =
      (charOfHex? (['0', '0'] ++ (Digits.ofByte c.toNat).map Char.toUpper)).map (·, rest) := rfl
  rw [hread] at hescape
  simp only [piece?, beq_self_eq_true, Bool.not_false, Bool.and_self, if_true, hescape,
    Option.map_some]

/-- An escaped character is one piece, which is not a quote. -/
theorem spelled_escapedChar {several : Bool} {c : Char} (hc : c ≠ '"') {run : Nat} {s w : List Char}
    (h : Spelled ⟨false, several⟩ 0 s w) :
    Spelled ⟨false, several⟩ run (c :: s) (escapedChar several c ++ w) := by
  have hback := backslash_ne_quote ⟨false, several⟩
  unfold escapedChar
  split
  · exact .char _ hback (fun _ => rfl) h
  · exact .char _ hback (fun _ => rfl) h
  · exact .char _ hback (fun _ => rfl) h
  · exact .char _ hback (fun _ => rfl) h
  · exact .char _ hback (fun _ => rfl) h
  · cases several with
    | false => exact .char _ hback (fun _ => rfl) h
    | true => exact .char [] (by decide) (fun _ => rfl) h
  · next hbackslash _ =>
    split
    · next hcontrol => exact .char _ hback (piece?_ofByte several hcontrol) h
    · next hcontrol =>
      exact .plain hc (by simpa using hbackslash) (Bool.not_eq_true _ ▸ hcontrol) h

/-- What basic text writes for its text reads as this text, whatever the text is. -/
theorem spelled_escapeBasic (several : Bool) (s : List Char) (run : Nat) :
    Spelled ⟨false, several⟩ run s (escapeBasic several run s) := by
  induction s generalizing run with
  | nil => exact .nil
  | cons c s ih =>
    by_cases hc : c = '"'
    · subst hc
      change Spelled _ _ _ (if QuoteForm.slack ⟨false, several⟩ < run + 1 then
        '\\' :: '"' :: escapeBasic several 0 s else '"' :: escapeBasic several (run + 1) s)
      split
      · exact .char ['"'] (backslash_ne_quote _) (fun _ => rfl) (ih 0)
      · exact .quote (by omega) (ih (run + 1))
    · rw [escapeBasic, if_neg (by simpa using hc)]
      exact spelled_escapedChar hc (ih 0)

/-! ## Literal text -/

/-- The run of quotes up to a character and the longest run so far. -/
def runStep (q : Char) (state : Nat × Nat) (c : Char) : Nat × Nat :=
  let run := if c == q then state.1 + 1 else 0
  (run, max state.2 run)

theorem longestRun_eq (q : Char) (s : List Char) :
    longestRun q s = (s.foldl (runStep q) (0, 0)).2 := rfl

theorem le_longestRun (q : Char) (s : List Char) (state : Nat × Nat) :
    state.2 ≤ (s.foldl (runStep q) state).2 := by
  induction s generalizing state with
  | nil => exact Nat.le_refl _
  | cons c s ih => exact Nat.le_trans (Nat.le_max_left _ _) (ih (runStep q state c))

theorem spelled_literal {several : Bool} {s : List Char}
    (hcontrol : ∀ c ∈ s, isControl c = true → c = '\n' ∧ several = true) (state : Nat × Nat)
    (hruns : (s.foldl (runStep '\'') state).2 ≤ QuoteForm.slack ⟨true, several⟩) :
    Spelled ⟨true, several⟩ state.1 s s := by
  induction s generalizing state with
  | nil => exact .nil
  | cons c s ih =>
    rw [List.forall_mem_cons] at hcontrol
    have hrest := ih hcontrol.2 (runStep '\'' state c) hruns
    have hle := Nat.le_trans (le_longestRun '\'' s (runStep '\'' state c)) hruns
    by_cases hc : c = '\''
    · subst hc
      exact .quote (Nat.le_trans (Nat.le_max_right _ _) hle) hrest
    · have hrun : (runStep '\'' state c).1 = 0 := if_neg (by simpa using hc)
      rw [hrun] at hrest
      cases hc' : isControl c with
      | true =>
        obtain ⟨rfl, rfl⟩ := hcontrol.1 hc'
        exact .char [] hc (fun _ => rfl) hrest
      | false => exact .plain hc (Bool.and_false _) hc' hrest

/-! ## Quoted text -/

theorem spelled_inside (s : List Char) : Spelled (QuoteForm.forText s) 0 s
    (if (QuoteForm.forText s).isLiteral then s
      else escapeBasic (QuoteForm.forText s).severalLines 0 s) := by
  have hclean (h : (s.any fun c => isControl c && c != '\n') = false) :
      ∀ c ∈ s, isControl c = true → c = '\n' := by
    intro c hc hcontrol
    simpa [hcontrol] using List.any_eq_false.mp h c hc
  unfold QuoteForm.forText
  simp only
  split
  · exact spelled_escapeBasic _ s 0
  split
  · next h =>
    simp only [Bool.and_eq_true, Bool.not_eq_true', beq_iff_eq] at h
    rw [longestRun_eq] at h
    refine spelled_literal (fun c hc hcontrol => ?_) (0, 0) (Nat.le_of_eq h.1.2)
    obtain rfl := hclean h.1.1 c hc hcontrol
    simp [hc] at h
  split
  · exact spelled_escapeBasic _ s 0
  split
  · next h =>
    simp only [Bool.and_eq_true, Bool.not_eq_true', decide_eq_true_eq] at h
    rw [longestRun_eq] at h
    exact spelled_literal (fun c hc hcontrol => ⟨hclean h.1 c hc hcontrol, rfl⟩) (0, 0) h.2
  · exact spelled_escapeBasic _ s 0

theorem isControl_quote (f : QuoteForm) : isControl f.quote = false := by
  cases f with
  | mk literal several => cases literal <;> rfl

/-- Text without a line end does not start with one inside its quotes. -/
theorem Spelled.newline?_eq_none {f : QuoteForm} (hf : f.severalLines = true) {run : Nat}
    {s w : List Char} (h : Spelled f run s w) (hs : '\n' ∉ s) (rest : List Char) :
    newline? (w ++ (f.mark ++ rest)) = none := by
  cases h with
  | nil =>
    rw [List.nil_append, mark_eq]
    exact newline?_of_not_control (isControl_quote f) _
  | quote _ _ => exact newline?_of_not_control (isControl_quote f) _
  | @char _ c d s w piece _ hpiece _ =>
    rw [List.append_assoc]
    cases hline : newline? (d :: piece ++ (w ++ (f.mark ++ rest))) with
    | none => rfl
    | some after =>
      have hback : d ≠ '\\' := by
        rintro rfl
        cases hline
      have hread := hpiece (w ++ (f.mark ++ rest))
      rw [List.cons_append] at hread hline
      rw [piece?, beq_false_of_ne hback, Bool.false_and, hline, hf] at hread
      obtain rfl := (List.cons.inj (Prod.mk.inj (Option.some.inj hread)).1).1
      exact absurd List.mem_cons_self hs

theorem quotedTail?_spelled {f : QuoteForm} {s w rest : List Char} (h : Spelled f 0 s w)
    (hrest : rest.head? ≠ some f.quote) :
    quotedTail? f ((if f.severalLines && s.contains '\n' then ['\n'] else []) ++
      (w ++ (f.mark ++ rest))) = some (String.ofList s, rest) := by
  have hbody := quotedBody?_spelled h (Nat.zero_le _) hrest
  cases hf : f.severalLines with
  | false =>
    rw [quotedTail?, hf]
    change (quotedBody? f (w ++ (f.mark ++ rest))).map _ = _
    rw [hbody]
    rfl
  | true =>
    rw [quotedTail?, hf]
    cases hs : s.contains '\n' with
    | true =>
      change (quotedBody? f (w ++ (f.mark ++ rest))).map _ = _
      rw [hbody]
      rfl
    | false =>
      have hline := h.newline?_eq_none hf (by simpa using hs) rest
      change (quotedBody? f
        ((newline? (w ++ (f.mark ++ rest))).getD (w ++ (f.mark ++ rest)))).map _ = _
      rw [hline, Option.getD_none, hbody]
      rfl

/-- The quotes tell the form, unless empty text on one line is followed by another quote. -/
theorem text?_mark {f : QuoteForm} {cs : List Char}
    (h : f.severalLines = false → leadingQuotes f cs ≤ 1) :
    text? (f.mark ++ cs) = quotedTail? f cs := by
  have htwo (rest : List Char) : ¬ leadingQuotes f (f.quote :: f.quote :: rest) ≤ 1 := by
    rw [leadingQuotes_quote, leadingQuotes_quote]
    omega
  match f with
  | ⟨literal, true⟩ => cases literal <;> rfl
  | ⟨false, false⟩ =>
    change text? ('"' :: cs) = _
    unfold text?
    split
    · next heq =>
      cases heq
      exact absurd (h rfl) (htwo _)
    · next heq => cases heq
    · rfl
  | ⟨true, false⟩ =>
    change text? ('\'' :: cs) = _
    unfold text?
    split
    · next heq => cases heq
    · next heq =>
      cases heq
      exact absurd (h rfl) (htwo _)
    · rfl

theorem text?_spelled {f : QuoteForm} {s w rest : List Char} (h : Spelled f 0 s w)
    (hrest : rest.head? ≠ some f.quote) :
    text? (f.mark ++ ((if f.severalLines && s.contains '\n' then ['\n'] else []) ++
      (w ++ (f.mark ++ rest)))) = some (String.ofList s, rest) := by
  refine (text?_mark fun hline => ?_).trans (quotedTail?_spelled h hrest)
  -- On one line, the text is empty or starts with another character than the quote.
  have hslack : f.slack = 0 := by rw [QuoteForm.slack, hline]; rfl
  rw [hline, Bool.false_and, if_neg (by decide), List.nil_append]
  rcases h.leadingQuotes (Nat.zero_le _) (f.mark ++ rest) with ⟨k, -, rfl, hk⟩ | hk
  · rw [mark_eq, ← List.append_assoc, List.replicate_append_replicate,
      leadingQuotes_replicate _ hrest]
    omega
  · omega

/-- Quoted text is read back, up to the end of its line. -/
theorem text?_quoteChars (s rest : List Char) :
    text? (quoteChars s ++ '\n' :: rest) = some (String.ofList s, '\n' :: rest) := by
  have hquote (f : QuoteForm) : ('\n' :: rest).head? ≠ some f.quote := by
    cases f with
    | mk literal several => cases literal <;> simp [QuoteForm.quote]
  rw [quoteChars]
  simp only [List.append_assoc]
  exact text?_spelled (spelled_inside s) (hquote _)

end SolidScene.Toml
