import Mathlib.Data.List.Basic
import Mathlib.Data.List.TakeWhile
import SolidScene.Toml.Scalar

/-!
# Reading words of TOML back

A word at the end of a line is cut off there and told by its form. Decimal digits without a leading
zero can be neither a moment nor a float, because they lack the marks of both.
-/
namespace SolidScene.Toml

/-! ## Digits -/

/-- Nothing but decimal digits. -/
def AllDigits (cs : List Char) : Prop := ∀ c ∈ cs, c.isDigit = true

theorem AllDigits.drop {cs : List Char} (h : AllDigits cs) (n : Nat) : AllDigits (cs.drop n) :=
  fun c hc => h c (List.mem_of_mem_drop hc)

theorem AllDigits.not_mem {cs : List Char} (h : AllDigits cs) {c : Char} (hc : c.isDigit = false) :
    c ∉ cs := by
  intro hmem
  rw [h c hmem] at hc
  cases hc

theorem value?_of_isDigit {c : Char} (h : c.isDigit = true) :
    Digits.value? 10 c = some (c.toNat - '0'.toNat) := by
  have hle : '0'.toNat ≤ c.toNat ∧ c.toNat ≤ '9'.toNat := Char.isDigit_iff_toNat.mp h
  have hlt : c.toNat - '0'.toNat < 10 := by
    simp only [Char.reduceToNat] at hle ⊢
    omega
  simp only [Digits.value?, h, if_true, if_pos hlt]

theorem go_of_allDigits {cs : List Char} (h : AllDigits cs) (n : Nat) :
    digits?.go 10 n cs = some (Nat.ofDigitChars 10 cs n) := by
  induction cs generalizing n with
  | nil => rfl
  | cons c cs ih =>
    have hc : c.isDigit = true := h c List.mem_cons_self
    rw [Nat.ofDigitChars_cons, ← ih fun d hd => h d (List.mem_cons_of_mem _ hd)]
    conv_lhs => unfold digits?.go
    split
    · next heq => cases heq
    · next heq =>
      cases heq
      cases hc
    · next heq =>
      cases heq
      rw [value?_of_isDigit hc]
      rfl

theorem digits?_of_allDigits {cs : List Char} (hne : cs ≠ []) (h : AllDigits cs) :
    digits? 10 cs = some (Nat.ofDigitChars 10 cs 0) := by
  cases cs with
  | nil => exact absurd rfl hne
  | cons c cs =>
    have hrest : AllDigits cs := fun d hd => h d (List.mem_cons_of_mem _ hd)
    rw [digits?, value?_of_isDigit (h c List.mem_cons_self), Nat.ofDigitChars_cons, Nat.mul_zero,
      Nat.zero_add]
    exact go_of_allDigits hrest _

theorem allDigits_toDigits (n : Nat) : AllDigits (Nat.toDigits 10 n) :=
  fun _ hc => Nat.isDigit_of_mem_toDigits (by decide) (by decide) hc

/-- A number is written without leading zeros. -/
theorem head_toDigits {n : Nat} (h : 0 < n) : (Nat.toDigits 10 n).head? ≠ some '0' := by
  induction n using Nat.strongRecOn with
  | ind n ih =>
    by_cases hn : n < 10
    · rw [Nat.toDigits_of_lt_base hn]
      simp
      omega
    · rw [Nat.toDigits_of_base_le (by decide) (by omega),
        List.head?_append_of_ne_nil _ Nat.toDigits_ne_nil]
      exact ih (n / 10) (by omega) (by omega)

theorem wholeDigits?_toDigits (n : Nat) : wholeDigits? (Nat.toDigits 10 n) = some n := by
  have hread : digits? 10 (Nat.toDigits 10 n) = some n := by
    rw [digits?_of_allDigits Nat.toDigits_ne_nil (allDigits_toDigits n),
      Nat.ofDigitChars_ten_toDigits]
  unfold wholeDigits?
  split
  · next heq =>
    have hpos : 0 < n := by
      rw [Nat.pos_iff_ne_zero]
      rintro rfl
      cases heq
    exact absurd (congrArg List.head? heq) (head_toDigits hpos)
  · exact hread

/-! ## Neither moments nor floats -/

theorem expect?_of_allDigits {c : Char} (hc : c.isDigit = false) {cs : List Char}
    (h : AllDigits cs) : expect? c cs = none := by
  cases cs with
  | nil => rfl
  | cons d cs =>
    have hne : d ≠ c := fun heq => h.not_mem hc (heq ▸ List.mem_cons_self)
    rw [expect?, if_neg (by simpa using hne)]

theorem AllDigits.figures? {cs rest : List Char} {n value : Nat} (h : AllDigits cs)
    (hread : figures? n cs = some (value, rest)) : AllDigits rest := by
  unfold Toml.figures? at hread
  split at hread
  · cases hread
  · obtain ⟨_, _, heq⟩ := Option.map_eq_some_iff.mp hread
    obtain ⟨-, rfl⟩ := Prod.mk.inj heq
    exact h.drop n

theorem isMoment_of_allDigits {cs : List Char} (h : AllDigits cs) : isMoment cs = false := by
  have hdate : date? cs = none := by
    unfold date?
    cases hread : Toml.figures? 4 cs with
    | none => rfl
    | some r =>
      obtain ⟨value, rest⟩ := r
      change (expect? '-' rest).bind _ = none
      rw [expect?_of_allDigits (by decide) (h.figures? hread)]
      rfl
  have htime : time? cs = none := by
    unfold time?
    cases hread : Toml.figures? 2 cs with
    | none => rfl
    | some r =>
      obtain ⟨value, rest⟩ := r
      change (expect? ':' rest).bind _ = none
      rw [expect?_of_allDigits (by decide) (h.figures? hread)]
      rfl
  rw [isMoment, hdate, htime]
  rfl

theorem signed_of_allDigits {cs : List Char} (h : AllDigits cs) : signed cs = (false, cs) := by
  unfold signed
  split
  · exact absurd List.mem_cons_self (h.not_mem (by decide))
  · exact absurd List.mem_cons_self (h.not_mem (by decide))
  · rfl

theorem cutAt?_of_allDigits {p : Char → Bool} (hp : ∀ c, c.isDigit = true → p c = false)
    {cs : List Char} (h : AllDigits cs) : cutAt? p cs = none := by
  have hdrop : (cs.dropWhile fun c => !p c) = [] :=
    List.dropWhile_eq_nil_iff.mpr fun c hc => by simp [hp c (h c hc)]
  rw [cutAt?, hdrop]

theorem isFloat_of_allDigits {cs : List Char} (h : AllDigits cs) : isFloat cs = false := by
  have hmark {m : Char} (hm : m.isDigit = false) (c : Char) (hc : c.isDigit = true) :
      (c == m) = false :=
    beq_false_of_ne (ne_of_apply_ne Char.isDigit (by rw [hc, hm]; decide))
  have hexponent := cutAt?_of_allDigits (p := fun c => c == 'e' || c == 'E')
    (fun c hc => by rw [hmark (by decide) c hc, hmark (by decide) c hc]; rfl) h
  have hpoint := cutAt?_of_allDigits (p := (· == '.')) (hmark (by decide)) h
  have hdecimal : isDecimalFloat cs = false := by
    unfold isDecimalFloat
    simp only [signed_of_allDigits h, hexponent, hpoint]
    cases wholeDigits? cs <;> rfl
  have hword {word : List Char} (hword : 'n' ∈ word) : (cs == word) = false := by
    rw [beq_eq_false_iff_ne]
    rintro rfl
    exact h.not_mem (by decide) hword
  simp only [isFloat, signed_of_allDigits h, hdecimal]
  rw [hword (by decide), hword (by decide)]
  rfl

/-! ## Words -/

theorem integer?_toDigits {n : Nat} (h : (n : Int) ≤ Int64.maxValue.toInt) :
    integer? (Nat.toDigits 10 n) = some n := by
  have hdigits := allDigits_toDigits n
  have hletter {c : Char} (hc : c.isDigit = false) (rest : List Char) :
      Nat.toDigits 10 n ≠ '0' :: c :: rest := by
    intro heq
    exact hdigits.not_mem hc (by simp [heq])
  unfold integer?
  split
  · next heq => exact absurd heq (hletter (by decide) _)
  · next heq => exact absurd heq (hletter (by decide) _)
  · next heq => exact absurd heq (hletter (by decide) _)
  · simp [signed_of_allDigits hdigits, wholeDigits?_toDigits, h]

theorem ofWord?_toDigits {n : Nat} (h : (n : Int) ≤ Int64.maxValue.toInt) :
    Item.ofWord? (Nat.toDigits 10 n) = some (.integer n) := by
  have hdigits := allDigits_toDigits n
  have hword {word : String} (c : Char) (hc : c.isDigit = false) (hmem : c ∈ word.toList) :
      (Nat.toDigits 10 n == word.toList) = false := by
    rw [beq_eq_false_iff_ne]
    intro heq
    exact hdigits.not_mem hc (heq ▸ hmem)
  rw [Item.ofWord?, hword 'u' (by decide) (by decide), hword 'a' (by decide) (by decide),
    isMoment_of_allDigits hdigits, isFloat_of_allDigits hdigits, integer?_toDigits h]
  rfl

/-- A word is read up to the end of its line. -/
theorem scalar?_word {word : List Char} (h : ∀ c ∈ word, isWordChar c = true) (rest : List Char) :
    scalar? (word ++ '\n' :: rest) =
      (Item.ofWord? word).map fun item => (item, '\n' :: rest) := by
  have htake : (word ++ '\n' :: rest).takeWhile isWordChar = word := by
    rw [List.takeWhile_append_of_pos h]
    simp [show isWordChar '\n' = false by decide]
  have hdrop : (word ++ '\n' :: rest).dropWhile isWordChar = '\n' :: rest := by
    rw [List.dropWhile_append_of_pos h]
    simp [show isWordChar '\n' = false by decide]
  simp [scalar?, htake, hdrop]

end SolidScene.Toml
