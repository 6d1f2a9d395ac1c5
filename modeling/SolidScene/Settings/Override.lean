import SolidScene.Digits
import SolidScene.Settings.File

/-!
# Overrides

Variables of the environment that override settings. A variable that does not read as a value of its
setting is passed over and leaves every other setting alone.
-/
namespace SolidScene

abbrev Environment := String → Option String

namespace Settings

def fileName : String := "scadkit.toml"

def bool? : String → Option Bool
  | "true" => some true
  | "false" => some false
  | _ => none

/-- The value of at least one decimal digit. -/
def decimal? (cs : List Char) : Option Nat :=
  if cs.isEmpty then none else Digits.number? 10 cs

/-- Decimal digits with an optional plus sign before them, up to 32 bits. -/
def resolution? (text : String) : Option UInt32 := do
  let n ← decimal? (match text.toList with
    | '+' :: digits => digits
    | digits => digits)
  if n < UInt32.size then some (UInt32.ofNat n) else none

/-- The variables that settings can be overridden with. -/
def variableNames : List String :=
  ["SCADKIT_INDENT", "SCADKIT_INLINE", "SCADKIT_SIMPLIFY", "SCADKIT_COMMENTS", "SCADKIT_FN"]

/-- The settings with those that the environment overrides. The top indent has no variable. -/
def override (env : Environment) (s : Settings) : Settings :=
  { layout :=
      { indent := (env "SCADKIT_INDENT").getD s.layout.indent
        topIndent := s.layout.topIndent
        inline := ((env "SCADKIT_INLINE").bind bool?).getD s.layout.inline
        simplify := ((env "SCADKIT_SIMPLIFY").bind bool?).getD s.layout.simplify
        comments := ((env "SCADKIT_COMMENTS").bind bool?).getD s.layout.comments }
    resolution := ((env "SCADKIT_FN").bind resolution?).or s.resolution }

/-- The settings of a working directory: those of its settings file, or the standard ones if there
is none, under the overrides of the environment. -/
def load {α : Type} (files : Files) (env : Environment) : Except (Fault α) Settings := do
  let s ← if (files fileName).isSome then ofFile files fileName else .ok standard
  return s.override env

end Settings

end SolidScene
