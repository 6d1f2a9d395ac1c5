import SolidScene.Proofs.Toml.Scalar
import SolidScene.Settings.Override

/-!
# What the environment overrides

Each variable is described apart, by a relation between its value, the setting below it and the
setting that comes out. A value that does not read as one of its setting leaves the setting as it
was, and no variable touches the setting of another one. The relations leave no choice, so they hold
of the settings under the overrides and of no others.
-/
namespace SolidScene

open Toml (AllDigits)

/-! ## Numbers -/

namespace Digits

theorem value?_eq_none {c : Char} (h : c.isDigit = false) : value? 10 c = none := by
  -- The letters stand for ten and more, and the rest stands for the base itself.
  simp only [value?, h, Bool.false_eq_true, if_false]
  split
  · exact if_neg (by omega)
  · split
    · exact if_neg (by omega)
    · exact if_neg (Nat.lt_irrefl 10)

theorem foldlM_eq_some_iff {cs : List Char} {n v : Nat} :
    cs.foldlM (fun n c => (value? 10 c).map (10 * n + ·)) n = some v ↔
      AllDigits cs ∧ Nat.ofDigitChars 10 cs n = v := by
  induction cs generalizing n with
  | nil => simp [AllDigits]
  | cons c cs ih =>
    rw [List.foldlM_cons]
    by_cases hc : c.isDigit = true
    · rw [Toml.value?_of_isDigit hc, Option.map_some, Option.bind_eq_bind, Option.bind_some, ih,
        Nat.ofDigitChars_cons]
      simp [AllDigits, hc]
    · rw [value?_eq_none (by simpa using hc)]
      simp [AllDigits, hc]

end Digits

namespace Settings

/-- Decimal digits, at least one, with an optional plus sign before them, and their value. -/
def Writes (text : String) (n : Nat) : Prop :=
  ∃ digits, (text.toList = digits ∨ text.toList = '+' :: digits) ∧ digits ≠ [] ∧
    AllDigits digits ∧ Nat.ofDigitChars 10 digits 0 = n

theorem decimal?_eq_some_iff {cs : List Char} {n : Nat} :
    decimal? cs = some n ↔ cs ≠ [] ∧ AllDigits cs ∧ Nat.ofDigitChars 10 cs 0 = n := by
  unfold decimal?
  cases cs with
  | nil => simp
  | cons c cs =>
    rw [if_neg (by simp), Digits.number?, Digits.foldlM_eq_some_iff]
    exact (and_iff_right (List.cons_ne_nil c cs)).symm

/-- The digits behind the optional sign are those of the number, because a sign is no digit. -/
theorem decimal?_unsigned_iff {text : String} {n : Nat} :
    decimal? (match text.toList with
      | '+' :: digits => digits
      | digits => digits) = some n ↔ Writes text n := by
  rw [decimal?_eq_some_iff]
  split
  · next digits htext =>
    constructor
    · rintro ⟨hne, hdigits, hvalue⟩
      exact ⟨digits, .inr htext, hne, hdigits, hvalue⟩
    · rintro ⟨written, hwritten | hwritten, hne, hdigits, hvalue⟩
      · rw [← hwritten, htext] at hdigits
        exact absurd List.mem_cons_self (hdigits.not_mem (by decide))
      · rw [htext] at hwritten
        obtain ⟨-, rfl⟩ := List.cons.inj hwritten
        exact ⟨hne, hdigits, hvalue⟩
  · next hplain =>
    constructor
    · rintro ⟨hne, hdigits, hvalue⟩
      exact ⟨text.toList, .inl rfl, hne, hdigits, hvalue⟩
    · rintro ⟨written, hwritten | hwritten, hne, hdigits, hvalue⟩
      · rw [hwritten]
        exact ⟨hne, hdigits, hvalue⟩
      · exact absurd hwritten (hplain written)

theorem resolution?_eq_some_iff {text : String} {n : UInt32} :
    resolution? text = some n ↔ Writes text n.toNat := by
  unfold resolution?
  rw [Option.bind_eq_bind, Option.bind_eq_some_iff]
  constructor
  · rintro ⟨v, hv, hn⟩
    split at hn
    · next hlt =>
      obtain rfl := Option.some.inj hn
      rw [UInt32.toNat_ofNat_of_lt' hlt]
      exact decimal?_unsigned_iff.mp hv
    · cases hn
  · intro hn
    refine ⟨n.toNat, decimal?_unsigned_iff.mpr hn, ?_⟩
    rw [if_pos n.toNat_lt, UInt32.ofNat_toNat]

theorem resolution?_eq_none_iff {text : String} :
    resolution? text = none ↔ ∀ n, Writes text n → 4294967295 < n := by
  rw [Option.eq_none_iff_forall_ne_some]
  constructor
  · intro hnone n hn
    by_contra hle
    have hlt : n < UInt32.size := by
      show n < 4294967296
      omega
    refine hnone (UInt32.ofNat n) (resolution?_eq_some_iff.mpr ?_)
    rwa [UInt32.toNat_ofNat_of_lt' hlt]
  · intro hlarge n hn
    have hlt : n.toNat < 4294967296 := n.toNat_lt
    have := hlarge n.toNat (resolution?_eq_some_iff.mp hn)
    omega

/-! ## Single settings -/

/-- A choice under its variable: only the two words for it count. -/
inductive Chosen : Option String → Bool → Bool → Prop where
  | on (before : Bool) : Chosen (some "true") before true
  | off (before : Bool) : Chosen (some "false") before false
  | kept {value : Option String} (before : Bool) (hon : value ≠ some "true")
      (hoff : value ≠ some "false") : Chosen value before before

/-- A resolution under its variable: only numbers of 32 bits count. -/
inductive Resolved : Option String → Option UInt32 → Option UInt32 → Prop where
  | set {text : String} {n : UInt32} (before : Option UInt32) (h : Writes text n.toNat) :
      Resolved (some text) before (some n)
  | kept {value : Option String} (before : Option UInt32)
      (h : ∀ text n, value = some text → Writes text n → 4294967295 < n) :
      Resolved value before before

theorem chosen_iff {value : Option String} {before after : Bool} :
    Chosen value before after ↔ after = (value.bind bool?).getD before := by
  constructor
  · rintro (_ | _ | ⟨_, hon, hoff⟩)
    · rfl
    · rfl
    · cases value with
      | none => rfl
      | some text =>
        have hnone : bool? text = none := by
          unfold bool?
          split
          · exact absurd rfl hon
          · exact absurd rfl hoff
          · rfl
        rw [Option.bind_some, hnone, Option.getD_none]
  · rintro rfl
    cases value with
    | none => exact .kept before nofun nofun
    | some text =>
      rw [Option.bind_some]
      unfold bool?
      split
      · exact .on before
      · exact .off before
      · next hon hoff =>
        exact .kept before (fun h => hon (Option.some.inj h)) (fun h => hoff (Option.some.inj h))

theorem resolved_iff {value : Option String} {before after : Option UInt32} :
    Resolved value before after ↔ after = (value.bind resolution?).or before := by
  constructor
  · rintro (⟨_, h⟩ | ⟨_, h⟩)
    · rw [Option.bind_some, resolution?_eq_some_iff.mpr h, Option.some_or]
    · cases value with
      | none => rfl
      | some text =>
        have hnone : resolution? text = none :=
          resolution?_eq_none_iff.mpr fun n hn => h text n rfl hn
        rw [Option.bind_some, hnone, Option.none_or]
  · rintro rfl
    cases value with
    | none => exact .kept before nofun
    | some text =>
      rw [Option.bind_some]
      cases hread : resolution? text with
      | some n => exact .set before (resolution?_eq_some_iff.mp hread)
      | none =>
        refine .kept before fun _ n htext hn => ?_
        obtain rfl := Option.some.inj htext
        exact resolution?_eq_none_iff.mp hread n hn

/-! ## All settings -/

/-- What comes out of settings under the variables of the environment. -/
structure Overridden (env : Environment) (before after : Settings) : Prop where
  indent : ∀ text, env "SCADKIT_INDENT" = some text → after.layout.indent = text
  indent_kept : env "SCADKIT_INDENT" = none → after.layout.indent = before.layout.indent
  topIndent : after.layout.topIndent = before.layout.topIndent
  inline : Chosen (env "SCADKIT_INLINE") before.layout.inline after.layout.inline
  simplify : Chosen (env "SCADKIT_SIMPLIFY") before.layout.simplify after.layout.simplify
  comments : Chosen (env "SCADKIT_COMMENTS") before.layout.comments after.layout.comments
  resolution : Resolved (env "SCADKIT_FN") before.resolution after.resolution

theorem overridden_override (env : Environment) (s : Settings) :
    Overridden env s (s.override env) where
  indent text h := by rw [override, h, Option.getD_some]
  indent_kept h := by rw [override, h, Option.getD_none]
  topIndent := rfl
  inline := chosen_iff.mpr rfl
  simplify := chosen_iff.mpr rfl
  comments := chosen_iff.mpr rfl
  resolution := resolved_iff.mpr rfl

theorem Overridden.indent_eq {env : Environment} {before after : Settings}
    (h : Overridden env before after) :
    after.layout.indent = (env "SCADKIT_INDENT").getD before.layout.indent := by
  cases hvalue : env "SCADKIT_INDENT" with
  | none => exact h.indent_kept hvalue
  | some text => exact h.indent text hvalue

theorem overridden_iff {env : Environment} {before after : Settings} :
    Overridden env before after ↔ after = before.override env := by
  constructor
  · intro h
    have hindent := h.indent_eq
    have htop := h.topIndent
    have hinline := chosen_iff.mp h.inline
    have hsimplify := chosen_iff.mp h.simplify
    have hcomments := chosen_iff.mp h.comments
    have hresolution := resolved_iff.mp h.resolution
    obtain ⟨⟨indent, topIndent, inline, simplify, comments⟩, resolution⟩ := after
    subst hindent htop hinline hsimplify hcomments hresolution
    rfl
  · rintro rfl
    exact overridden_override env before

theorem Chosen.again {value : Option String} {before after : Bool}
    (h : Chosen value before after) : Chosen value after after := by
  cases h with
  | on => exact .on _
  | off => exact .off _
  | kept _ hon hoff => exact .kept _ hon hoff

theorem Resolved.again {value : Option String} {before after : Option UInt32}
    (h : Resolved value before after) : Resolved value after after := by
  cases h with
  | set _ h => exact .set _ h
  | kept _ h => exact .kept _ h

theorem Overridden.again {env : Environment} {before after : Settings}
    (h : Overridden env before after) : Overridden env after after where
  indent := h.indent
  indent_kept _ := rfl
  topIndent := rfl
  inline := h.inline.again
  simplify := h.simplify.again
  comments := h.comments.again
  resolution := h.resolution.again

/-- Variables that have been heeded once change nothing more. -/
theorem override_override (env : Environment) (s : Settings) :
    (s.override env).override env = s.override env :=
  (overridden_iff.mp (overridden_override env s).again).symm

end Settings

end SolidScene
