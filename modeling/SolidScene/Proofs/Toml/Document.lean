import SolidScene.Proofs.Toml.Quoted
import SolidScene.Proofs.Toml.Scalar
import SolidScene.Toml.Document

/-!
# Reading lines of TOML back

A line with a bare key, an equals sign and a value adds an entry to the current table, a header
opens a table, and an empty line does nothing. Each takes off exactly itself with its line end.
-/
namespace SolidScene.Toml

/-! ## Keys -/

/-- A key that needs no quotes. -/
def IsBareKey (key : List Char) : Prop := key ≠ [] ∧ ∀ c ∈ key, isBareChar c = true

instance (key : List Char) : Decidable (IsBareKey key) :=
  decidable_of_iff (key ≠ [] ∧ key.all isBareChar = true) (by rw [IsBareKey, List.all_eq_true])

theorem skipBlanks_of_head {cs : List Char} (h : ∀ c ∈ cs.head?, isBlank c = false) :
    skipBlanks cs = cs := by
  cases cs with
  | nil => rfl
  | cons c cs => rw [skipBlanks, List.dropWhile_cons, h c rfl, if_neg (by decide)]

theorem not_blank_of_isBareChar {c : Char} (h : isBareChar c = true) : isBlank c = false := by
  rw [← Bool.not_eq_true, isBlank, Bool.or_eq_true, beq_iff_eq, beq_iff_eq]
  rintro (rfl | rfl) <;> exact absurd h (by decide)

theorem not_control_of_isBareChar {c : Char} (h : isBareChar c = true) : isControl c = false := by
  have hbare : ∀ n < 128, isControl (Char.ofNat n) = true → isBareChar (Char.ofNat n) = false := by
    decide
  rw [← Bool.not_eq_true]
  intro hcontrol
  have hc := hbare c.toNat (lt_of_isControl hcontrol)
  rw [Char.ofNat_toNat] at hc
  rw [hc hcontrol] at h
  cases h

theorem simpleKey?_bare {key after : List Char} (hkey : IsBareKey key)
    (hafter : ∀ c ∈ after.head?, isBareChar c = false) :
    simpleKey? (key ++ after) = some (String.ofList key, after) := by
  have hstop : after.takeWhile isBareChar = [] ∧ after.dropWhile isBareChar = after := by
    cases after with
    | nil => exact ⟨rfl, rfl⟩
    | cons c cs => simp [hafter c rfl]
  rw [simpleKey?, List.takeWhile_append_of_pos hkey.2, List.dropWhile_append_of_pos hkey.2,
    hstop.1, hstop.2, List.append_nil, if_neg (by simpa using hkey.1)]

/-- A bare key is read up to what follows it, which is no dot. -/
theorem key?_bare {key after rest : List Char} {c : Char} (hkey : IsBareKey key)
    (hafter : ∀ c ∈ after.head?, isBareChar c = false) (hrest : skipBlanks after = c :: rest)
    (hc : c ≠ '.') : key? (key ++ after) = some (([], String.ofList key), c :: rest) := by
  have hhead : skipBlanks (key ++ after) = key ++ after := by
    obtain ⟨d, ds, rfl⟩ := List.exists_cons_of_ne_nil hkey.1
    refine skipBlanks_of_head ?_
    rintro _ ⟨⟩
    exact not_blank_of_isBareChar (hkey.2 d List.mem_cons_self)
  have hpath (n : Nat) : keyPath? (n + 1) (key ++ after) =
      some ([String.ofList key], c :: rest) := by
    rw [keyPath?, hhead, simpleKey?_bare hkey hafter]
    simp only [Option.bind_eq_bind, Option.bind_some, hrest]
    split
    · next heq => exact absurd (List.cons.inj heq).1 hc
    · rfl
  rw [key?, nestingLimit, hpath]
  rfl

/-! ## Values -/

/-- What is written at the end of a line reads as the item. -/
def ReadsAs (size : Nat) (written : List Char) (item : Item) : Prop :=
  (∀ c ∈ written.head?, isBlank c = false) ∧ ∀ rest,
    value? size (nestingLimit - 1) (written ++ '\n' :: rest) = some (item, '\n' :: rest)

theorem readsAs_quoteChars (size : Nat) (s : List Char) :
    ReadsAs size (quoteChars s) (.text (String.ofList s)) := by
  have hquote (f : QuoteForm) : isBlank f.quote = false ∧
      (f.quote == '"' || f.quote == '\'') = true := by
    cases f with
    | mk literal several => cases literal <;> exact ⟨rfl, rfl⟩
  obtain ⟨tail, htail⟩ : ∃ tail, quoteChars s = (QuoteForm.forText s).quote :: tail := by
    rw [quoteChars, mark_eq, List.replicate_succ]
    exact ⟨_, rfl⟩
  refine ⟨?_, fun rest => ?_⟩
  · rw [htail]
    rintro _ ⟨⟩
    exact (hquote _).1
  · have htext := text?_quoteChars s rest
    rw [htail, List.cons_append] at htext ⊢
    rw [value?.eq_def]
    simp only [(hquote _).2, if_true, htext, Option.map_some]

theorem readsAs_word {size : Nat} {word : List Char} {item : Item} (hne : word ≠ [])
    (hword : ∀ c ∈ word, isWordChar c = true) (hitem : Item.ofWord? word = some item) :
    ReadsAs size word item := by
  obtain ⟨c, cs, rfl⟩ := List.exists_cons_of_ne_nil hne
  have hc := hword c List.mem_cons_self
  have hother {d : Char} (hd : isWordChar d = false) : (c == d) = false :=
    beq_false_of_ne (ne_of_apply_ne isWordChar (by rw [hc, hd]; decide))
  refine ⟨?_, fun rest => ?_⟩
  · rintro _ ⟨⟩
    rw [isBlank, hother (by decide), hother (by decide)]
    rfl
  · have hscalar := scalar?_word hword rest
    rw [hitem, List.cons_append] at hscalar
    rw [List.cons_append, value?.eq_def]
    simp only [hother (d := '"') (by decide), hother (d := '\'') (by decide),
      hother (d := '[') (by decide), hother (d := '\x7b') (by decide), hscalar]
    rfl

/-! ## Lines -/

theorem pair?_line {size : Nat} {key written : List Char} {item : Item} (hkey : IsBareKey key)
    (hvalue : ReadsAs size written item) (rest : List Char) :
    pair? (value? size (nestingLimit - 1))
        (key ++ ' ' :: '=' :: ' ' :: (written ++ '\n' :: rest)) =
      some (([], String.ofList key, item), '\n' :: rest) := by
  have hread : key? (key ++ ' ' :: '=' :: ' ' :: (written ++ '\n' :: rest)) =
      some (([], String.ofList key), '=' :: ' ' :: (written ++ '\n' :: rest)) :=
    key?_bare hkey (by rintro _ ⟨⟩; decide) rfl (by decide)
  have hblank : skipBlanks (' ' :: (written ++ '\n' :: rest)) = written ++ '\n' :: rest := by
    change skipBlanks (written ++ '\n' :: rest) = _
    refine skipBlanks_of_head ?_
    cases written with
    | nil =>
      rintro _ ⟨⟩
      decide
    | cons c cs => exact hvalue.1
  rw [pair?, hread]
  change (value? size (nestingLimit - 1) (skipBlanks (' ' :: (written ++ '\n' :: rest)))).bind _ = _
  rw [hblank, hvalue.2]
  rfl

/-- A line starts with its key, which is neither the start of a comment nor of a header. -/
theorem line?_pair {size : Nat} {key written : List Char} {item : Item} (hkey : IsBareKey key)
    (hvalue : ReadsAs size written item) (r : Reading) (rest : List Char) :
    line? size r (key ++ ' ' :: '=' :: ' ' :: (written ++ '\n' :: rest)) =
      (r.pair [] (String.ofList key) item).map (·, rest) := by
  have hpair := pair?_line hkey hvalue rest
  obtain ⟨c, cs, rfl⟩ := List.exists_cons_of_ne_nil hkey.1
  have hc := hkey.2 c List.mem_cons_self
  have hother {d : Char} (hd : isBareChar d = false) : c ≠ d :=
    ne_of_apply_ne isBareChar (by rw [hc, hd]; decide)
  rw [line?, List.cons_append, newline?_of_not_control (not_control_of_isBareChar hc)]
  · rw [List.cons_append] at hpair
    simp only [hpair]
    change ((r.pair [] _ item).bind fun r =>
      (lineEnd? ('\n' :: rest)).bind fun rest => some (r, rest)) = _
    cases r.pair [] (String.ofList (c :: cs)) item <;> rfl
  · exact fun _ heq => hother (by decide) (List.cons.inj heq).1
  · exact fun _ heq => hother (by decide) (List.cons.inj heq).1

theorem line?_header {key : List Char} (hkey : IsBareKey key) (size : Nat) (r : Reading)
    (rest : List Char) :
    line? size r ('[' :: (key ++ ']' :: '\n' :: rest)) =
      (r.header [] (String.ofList key) openTable).map (·, rest) := by
  have hread : key? (key ++ ']' :: '\n' :: rest) =
      some (([], String.ofList key), ']' :: '\n' :: rest) :=
    key?_bare hkey (by rintro _ ⟨⟩; decide) rfl (by decide)
  obtain ⟨c, cs, rfl⟩ := List.exists_cons_of_ne_nil hkey.1
  change headerLine? r (c :: (cs ++ ']' :: '\n' :: rest)) = _
  unfold headerLine?
  split
  · next heq =>
    cases heq
    exact absurd (hkey.2 '[' List.mem_cons_self) (by decide)
  · rw [← List.cons_append, hread]
    change ((r.header [] _ openTable).bind fun r =>
      (lineEnd? ('\n' :: rest)).bind fun rest => some (r, rest)) = _
    cases r.header [] (String.ofList (c :: cs)) openTable <;> rfl

/-! ## Documents -/

theorem lines?_line {size lines : Nat} {r : Reading} {c : Char} {cs rest : List Char}
    {after : Option Reading} (hc : isBlank c = false)
    (hline : line? size r (c :: cs) = after.map (·, rest)) :
    lines? size (lines + 1) r (c :: cs) = after.bind fun r => lines? size lines r rest := by
  rw [lines?, skipBlanks_of_head (by rintro _ ⟨⟩; exact hc)]
  simp only [hline]
  cases after <;> rfl

theorem lines?_pair {size lines : Nat} {r : Reading} {key : String} {written : List Char}
    {item : Item} (hkey : IsBareKey key.toList) (hvalue : ReadsAs size written item)
    (rest : List Char) :
    lines? size (lines + 1) r (key.toList ++ ' ' :: '=' :: ' ' :: (written ++ '\n' :: rest)) =
      (r.pair [] key item).bind fun r => lines? size lines r rest := by
  have hline := line?_pair hkey hvalue r rest
  rw [String.ofList_toList] at hline
  obtain ⟨c, cs, hcs⟩ := List.exists_cons_of_ne_nil hkey.1
  have hc : isBlank c = false := not_blank_of_isBareChar (hkey.2 c (by simp [hcs]))
  rw [hcs] at hline ⊢
  exact lines?_line hc hline

theorem lines?_header {size lines : Nat} {r : Reading} {key : String}
    (hkey : IsBareKey key.toList) (rest : List Char) :
    lines? size (lines + 1) r ('[' :: (key.toList ++ ']' :: '\n' :: rest)) =
      (r.header [] key openTable).bind fun r => lines? size lines r rest := by
  have hline := line?_header hkey size r rest
  rw [String.ofList_toList] at hline
  exact lines?_line (by decide) hline

/-- A document without a byte order mark is read line by line. -/
theorem document?_eq {text : String} (h : text.toList.head? ≠ some '\ufeff') :
    document? text = lines? (text.toList.length + 1) (text.toList.length + 1) ⟨[], []⟩
      text.toList := by
  unfold document?
  split
  · next heq => exact absurd (congrArg List.head? heq) h
  · rfl

theorem lines?_blank {size lines : Nat} {r : Reading} (rest : List Char) :
    lines? size (lines + 1) r ('\n' :: rest) = lines? size lines r rest := rfl

end SolidScene.Toml
