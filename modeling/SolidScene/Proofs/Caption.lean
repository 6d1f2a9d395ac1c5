import SolidScene.Phrase
import SolidScene.Proofs.Listwise
import SolidScene.Proofs.Scad.Statement

/-!
# Words between numerals

A caption is words with numerals between them. If no character of a word is one of a numeral, and
there is a word between any two numerals, then the text of a caption determines its words and its
numerals.
-/
namespace SolidScene.Caption

open Scad (isNumeral isNumeralChar)

/-- Words and numerals in turn, from the first word to the last. -/
def weave : List String → List String → String
  | word :: words, numeral :: numerals => word ++ numeral ++ weave words numerals
  | word :: _, [] => word
  | [], _ => ""

theorem weave_append (a word : String) (words numerals : List String) :
    weave ((a ++ word) :: words) numerals = a ++ weave (word :: words) numerals := by
  cases numerals with
  | nil => rfl
  | cons n ns => simp only [weave, String.append_assoc]

theorem weave_capitalized {word : String} (h : word ≠ "") (words numerals : List String) :
    weave (Phrase.capitalized word :: words) numerals =
      Phrase.capitalized (weave (word :: words) numerals) := by
  have happend (rest : String) :
      Phrase.capitalized (word ++ rest) = Phrase.capitalized word ++ rest := by
    obtain ⟨c, cs, hword⟩ := List.exists_cons_of_ne_nil (by simpa using h : word.toList ≠ [])
    apply String.toList_injective
    simp [Phrase.capitalized, hword]
  cases numerals with
  | nil => rfl
  | cons n ns => simp only [weave, String.append_assoc, happend]

/-- No word but the last one is empty, and none has a character of a numeral in it. -/
def PlainWords (words : List String) : Prop :=
  (∀ word ∈ words, ∀ c ∈ word.toList, isNumeralChar c = false) ∧ ∀ word ∈ words.dropLast, word ≠ ""

-- The characters of a word are gone through, not all characters that there are.
instance (words : List String) : Decidable (PlainWords words) :=
  decidable_of_iff ((∀ word ∈ words, (word.toList.all (!isNumeralChar ·)) = true) ∧
      ∀ word ∈ words.dropLast, word ≠ "") (by
    simp only [PlainWords, List.all_eq_true, Bool.not_eq_true'])

theorem PlainWords.tail {word : String} {words : List String} (h : PlainWords (word :: words)) :
    PlainWords words := by
  refine ⟨fun w hw => h.1 w (List.mem_cons_of_mem _ hw), ?_⟩
  cases words with
  | nil => simp
  | cons w ws => exact fun v hv => h.2 v (List.mem_cons_of_mem _ hv)

/-- The pieces of a caption: one word more than numerals. -/
structure IsCaption (words numerals : List String) : Prop where
  plain : PlainWords words
  numeral : ∀ n ∈ numerals, isNumeral n = true
  length : words.length = numerals.length + 1

theorem numeral_chars {n : String} (h : isNumeral n = true) :
    n.toList ≠ [] ∧ ∀ c ∈ n.toList, isNumeralChar c = true := by
  rw [isNumeral, Bool.and_eq_true, List.all_eq_true] at h
  exact ⟨by simpa using h.1, h.2⟩

/-- A numeral is no part of the word before it. -/
theorem not_word_head {n : List Char} (h : n ≠ [] ∧ ∀ c ∈ n, isNumeralChar c = true)
    (rest : List Char) : ∀ c ∈ (n ++ rest).head?, ¬ isNumeralChar c = false := by
  intro c hc
  rw [List.head?_append_of_ne_nil _ h.1] at hc
  rw [Bool.not_eq_false]
  exact h.2 c (List.mem_of_mem_head? hc)

namespace IsCaption

variable {words words' numerals numerals' : List String} {word numeral : String}

theorem tail (h : IsCaption (word :: words) (numeral :: numerals)) : IsCaption words numerals :=
  ⟨h.plain.tail, fun n hn => h.numeral n (List.mem_cons_of_mem _ hn),
    Nat.add_right_cancel h.length⟩

/-- A caption does not start with a numeral. -/
theorem head (h : IsCaption words numerals) :
    ∀ c ∈ (weave words numerals).toList.head?, ¬ isNumeralChar c = true := by
  intro c hc
  rw [Bool.not_eq_true]
  match words, numerals, h with
  | [w], [], h => exact h.plain.1 w List.mem_cons_self c (List.mem_of_mem_head? hc)
  | w :: v :: ws, n :: ns, h =>
    refine h.plain.1 w List.mem_cons_self c (List.mem_of_mem_head? ?_)
    have hne : w.toList ≠ [] := by simpa using h.plain.2 w (by simp)
    rwa [weave, String.append_assoc, String.toList_append, List.head?_append_of_ne_nil _ hne] at hc

/-- A caption without numerals is not one with numerals. -/
theorem word_ne_weave (h : IsCaption [word] []) (h' : IsCaption words' (numeral :: numerals')) :
    word ≠ weave words' (numeral :: numerals') := by
  intro heq
  obtain ⟨hne, hchars⟩ := numeral_chars (h'.numeral numeral List.mem_cons_self)
  obtain ⟨c, cs, hc⟩ := List.exists_cons_of_ne_nil hne
  match words', h' with
  | w' :: ws', h' =>
    have hmem : c ∈ word.toList := by simp [heq, weave, hc]
    have hplain := h.plain.1 word List.mem_cons_self c hmem
    rw [hchars c (by simp [hc])] at hplain
    cases hplain

theorem mem_weave {c : Char} (h : c ∈ (weave words numerals).toList) :
    (∃ word ∈ words, c ∈ word.toList) ∨ ∃ n ∈ numerals, c ∈ n.toList := by
  fun_induction weave words numerals with
  | case1 word words n numerals ih =>
    rw [String.toList_append, String.toList_append, List.mem_append, List.mem_append] at h
    rcases h with (h | h) | h
    · exact .inl ⟨word, List.mem_cons_self, h⟩
    · exact .inr ⟨n, List.mem_cons_self, h⟩
    · rcases ih h with ⟨w, hw, hc⟩ | ⟨m, hm, hc⟩
      · exact .inl ⟨w, List.mem_cons_of_mem _ hw, hc⟩
      · exact .inr ⟨m, List.mem_cons_of_mem _ hm, hc⟩
  | case2 word words => exact .inl ⟨word, List.mem_cons_self, h⟩
  | case3 numerals => cases h

/-- A caption is one line if its words are. -/
theorem oneLined (h : IsCaption words numerals) (hwords : ∀ word ∈ words, '\n' ∉ word.toList) :
    '\n' ∉ (weave words numerals).toList := by
  intro hmem
  rcases mem_weave hmem with ⟨w, hw, hc⟩ | ⟨n, hn, hc⟩
  · exact hwords w hw hc
  · exact absurd ((numeral_chars (h.numeral n hn)).2 _ hc) (by decide)

/-- The text of a caption determines its words and its numerals. -/
theorem weave_injective (h : IsCaption words numerals) (h' : IsCaption words' numerals')
    (heq : weave words numerals = weave words' numerals') :
    words = words' ∧ numerals = numerals' := by
  induction numerals generalizing words words' numerals' with
  | nil =>
    obtain ⟨w, rfl⟩ := List.length_eq_one_iff.mp h.length
    cases numerals' with
    | nil =>
      obtain ⟨w', rfl⟩ := List.length_eq_one_iff.mp h'.length
      exact ⟨congrArg ([·]) heq, rfl⟩
    | cons n' ns' => exact absurd heq (h.word_ne_weave h')
  | cons n ns ih =>
    cases numerals' with
    | nil =>
      obtain ⟨w', rfl⟩ := List.length_eq_one_iff.mp h'.length
      exact absurd heq.symm (h'.word_ne_weave h)
    | cons n' ns' =>
      obtain ⟨w, ws, rfl⟩ := List.exists_cons_of_length_eq_add_one h.length
      obtain ⟨w', ws', rfl⟩ := List.exists_cons_of_length_eq_add_one h'.length
      have hn := numeral_chars (h.numeral n List.mem_cons_self)
      have hn' := numeral_chars (h'.numeral n' List.mem_cons_self)
      have hchars := congrArg String.toList heq
      simp only [weave, String.toList_append, List.append_assoc] at hchars
      -- The word ends where the numeral starts, and the numeral where the next word does.
      obtain ⟨hword, hbehind⟩ := eq_of_append_eq_append
        (h.plain.1 w List.mem_cons_self) (h'.plain.1 w' List.mem_cons_self)
        (not_word_head hn _) (not_word_head hn' _) hchars
      obtain ⟨hnumeral, hrest⟩ := eq_of_append_eq_append hn.2 hn'.2 h.tail.head h'.tail.head hbehind
      obtain ⟨rfl, rfl⟩ := ih h.tail h'.tail (String.toList_injective hrest)
      exact ⟨by rw [String.toList_injective hword], by rw [String.toList_injective hnumeral]⟩

end IsCaption

end SolidScene.Caption
