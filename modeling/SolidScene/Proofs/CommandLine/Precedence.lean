import SolidScene.CommandLine.Run
import SolidScene.Proofs.Outcome
import SolidScene.Proofs.Settings.Override
import SolidScene.Proofs.Settings.Reload

/-!
# Which settings a demo is written with

A file that is named on the command line stands alone. Without one, the usual settings file or the
standard settings hold, under the variables of the environment. The resolution of the demo comes in
only where none is set by then, and the switches can only turn a choice on. How the settings come
about is told by relations first; they hold of the settings that a demo is written with and of no
others.
-/
namespace SolidScene.CommandLine

open Settings (ofFile fileName Overridden overridden_iff)

/-- Settings that the files and the environment give, with or without a file named on the command
line. -/
inductive Given (files : Files) (env : Environment) : Option String → Settings → Prop where
  | named {name : String} {s : Settings}
      (hfile : ofFile files name = (.ok s : Except (Fault Float) Settings)) :
      Given files env (some name) s
  | usual {file s : Settings} (hthere : files fileName ≠ none)
      (hfile : ofFile files fileName = (.ok file : Except (Fault Float) Settings))
      (hover : Overridden env file s) : Given files env none s
  | standard {s : Settings} (habsent : files fileName = none)
      (hover : Overridden env Settings.standard s) : Given files env none s

/-- What the demo and the switches make of given settings. -/
structure Adjusted (o : RenderOptions) (demo : Demo) (before after : Settings) : Prop where
  indent : after.layout.indent = before.layout.indent
  topIndent : after.layout.topIndent = before.layout.topIndent
  inline : after.layout.inline = true ↔ before.layout.inline = true ∨ o.inline = true
  simplify : after.layout.simplify = true ↔ before.layout.simplify = true ∨ o.simplify = true
  comments : after.layout.comments = before.layout.comments
  resolution : ∀ n, before.resolution = some n → after.resolution = some n
  fallback : before.resolution = none → after.resolution = demo.settings.resolution

theorem Adjusted.resolution_eq {o : RenderOptions} {demo : Demo} {before after : Settings}
    (h : Adjusted o demo before after) :
    after.resolution = before.resolution.or demo.settings.resolution := by
  cases hset : before.resolution with
  | none => exact h.fallback hset
  | some n => exact h.resolution n hset

theorem adjusted_adjust (o : RenderOptions) (demo : Demo) (s : Settings) :
    Adjusted o demo s (o.adjust demo s) where
  indent := rfl
  topIndent := rfl
  inline := Bool.or_eq_true_iff
  simplify := Bool.or_eq_true_iff
  comments := rfl
  resolution n h := by rw [RenderOptions.adjust, h, Option.some_or]
  fallback h := by rw [RenderOptions.adjust, h, Option.none_or]

theorem adjusted_iff {o : RenderOptions} {demo : Demo} {before after : Settings} :
    Adjusted o demo before after ↔ after = o.adjust demo before := by
  constructor
  · intro h
    have hindent := h.indent
    have htop := h.topIndent
    have hinline : after.layout.inline = (before.layout.inline || o.inline) := by
      rw [Bool.eq_iff_iff, Bool.or_eq_true]
      exact h.inline
    have hsimplify : after.layout.simplify = (before.layout.simplify || o.simplify) := by
      rw [Bool.eq_iff_iff, Bool.or_eq_true]
      exact h.simplify
    have hcomments := h.comments
    have hresolution := h.resolution_eq
    obtain ⟨⟨indent, topIndent, inline, simplify, comments⟩, resolution⟩ := after
    subst hindent htop hinline hsimplify hcomments hresolution
    rfl
  · rintro rfl
    exact adjusted_adjust o demo before

/-! ## Loading -/

section Loading

variable {files : Files} {env : Environment} {s : Settings}

theorem load_eq_ok_iff :
    Settings.load files env = (.ok s : Except (Fault Float) Settings) ↔ Given files env none s := by
  unfold Settings.load
  by_cases habsent : files fileName = none
  · have hnone : ¬(files fileName).isSome = true := by simp [habsent]
    rw [if_neg hnone, bind_ok]
    constructor
    · rintro ⟨_, hfile, hs⟩
      obtain rfl := Except.ok.inj hfile
      exact .standard habsent (overridden_iff.mpr (pure_ok.mp hs).symm)
    · rintro (_ | ⟨hthere, _, _⟩ | ⟨_, hover⟩)
      · exact absurd habsent hthere
      · exact ⟨Settings.standard, rfl, pure_ok.mpr (overridden_iff.mp hover).symm⟩
  · rw [if_pos (Option.isSome_iff_ne_none.mpr habsent), bind_ok]
    constructor
    · rintro ⟨file, hfile, hs⟩
      exact .usual habsent hfile (overridden_iff.mpr (pure_ok.mp hs).symm)
    · rintro (_ | ⟨_, hfile, hover⟩ | ⟨hnone, _⟩)
      · exact ⟨_, hfile, pure_ok.mpr (overridden_iff.mp hover).symm⟩
      · exact absurd hnone habsent

theorem settings_eq_ok_iff {o : RenderOptions} {demo : Demo} :
    o.settings demo files env = (.ok s : Except (Fault Float) Settings) ↔
      ∃ base, Given files env o.config base ∧ Adjusted o demo base s := by
  have hadjusted (base : Settings) :
      (pure (o.adjust demo base) : Except (Fault Float) Settings) = .ok s ↔
        Adjusted o demo base s := by
    rw [pure_ok, adjusted_iff, eq_comm]
  unfold RenderOptions.settings
  cases o.config with
  | none =>
    rw [bind_ok]
    exact exists_congr fun base => and_congr load_eq_ok_iff (hadjusted base)
  | some name =>
    rw [bind_ok]
    refine exists_congr fun base => and_congr ?_ (hadjusted base)
    constructor
    · exact .named
    · rintro ⟨hfile⟩
      exact hfile

/-- A named file is all that is looked at. -/
theorem settings_of_named {o : RenderOptions} {name : String} (hname : o.config = some name)
    (demo : Demo) {files' : Files} (hfile : files'.read name = files.read name)
    (env' : Environment) :
    o.settings demo files' env' =
      (o.settings demo files env : Except (Fault Float) Settings) := by
  simp only [RenderOptions.settings, hname, ofFile, hfile]

end Loading

/-! ## Writing -/

/-- The scene source that a run prints or stores, if it comes to that. -/
def Outcome.source? : Outcome → Option String
  | finished report => if report.code = 0 then some report.stdout else none
  | stores _ text _ _ _ => some text

theorem source?_printedScene {scene : Solid Float} {settings : Settings} {log text : String} :
    (printedScene scene settings log).source? = some text ↔ scene.output settings = .ok text := by
  unfold printedScene
  cases scene.output settings with
  | error fault => simp [faulty, Outcome.source?]
  | ok written => simp [Outcome.source?]

theorem source?_storedScene {demo : Demo} {scene : Solid Float} {settings : Settings}
    {name text : String} {verbose : Bool} :
    (storedScene demo scene settings name verbose).source? = some text ↔
      scene.output settings = .ok text := by
  unfold storedScene
  cases scene.output settings with
  | error fault => simp [Outcome.source?, Report.failed, Report.behind]
  | ok written => simp [Outcome.source?]

theorem source?_render {demo : Demo} {o : RenderOptions} {verbose : Bool} {files : Files}
    {env : Environment} {text : String} :
    (render demo o verbose files env).source? = some text ↔
      ∃ s scene, o.settings demo files env = (.ok s : Except (Fault Float) Settings) ∧
        demo.scene = .ok scene ∧ scene.output s = .ok text := by
  unfold render
  cases hsettings : (o.settings demo files env : Except (Fault Float) Settings) with
  | error fault => simp [Outcome.source?, Report.failed]
  | ok s =>
    cases hscene : demo.scene with
    | error fault => simp [faulty, Outcome.source?]
    | ok scene =>
      cases o.output with
      | none => simp [source?_printedScene]
      | some name => simp [source?_storedScene]

/-- The settings of a demo follow from the command line, the files and the environment in a fixed
order of precedence, and what is printed or stored is the scene of the demo under these settings.
With a named file neither the usual file nor the environment counts. Overriding leaves the top
indent alone, and a second time changes nothing. -/
theorem settings_take_precedence (demo : Demo) (o : RenderOptions) (verbose : Bool) (files : Files)
    (env : Environment) :
    (∀ s, o.settings demo files env = (.ok s : Except (Fault Float) Settings) ↔
        ∃ base, Given files env o.config base ∧ Adjusted o demo base s) ∧
      (∀ text, (render demo o verbose files env).source? = some text ↔
        ∃ s scene, o.settings demo files env = (.ok s : Except (Fault Float) Settings) ∧
          demo.scene = .ok scene ∧ scene.output s = .ok text) ∧
      (∀ name, o.config = some name → ∀ files' env', Files.read files' name = files.read name →
        o.settings demo files' env' =
          (o.settings demo files env : Except (Fault Float) Settings)) ∧
      ∀ s : Settings, Overridden env s (s.override env) ∧
        (s.override env).override env = s.override env := by
  refine ⟨fun s => settings_eq_ok_iff, fun text => source?_render, ?_, fun s => ?_⟩
  · intro name hname files' env' hfile
    exact settings_of_named hname demo hfile env'
  · exact ⟨Settings.overridden_override env s, s.override_override env⟩

/-- Settings of which none is the standard one. -/
def unusual : Settings := ⟨⟨"\t", "> ", true, true, false⟩, some 30⟩

def unusualFiles : Files := fun name =>
  if name = fileName then some (.ok unusual.text) else none

/-- Variables of which two do not read as a value of their setting. -/
def mixedVariables : Environment
  | "SCADKIT_INDENT" => some "  "
  | "SCADKIT_INLINE" => some "no"
  | "SCADKIT_SIMPLIFY" => some "False"
  | "SCADKIT_COMMENTS" => some "true"
  | "SCADKIT_FN" => some "+0048"
  | _ => none

theorem ofFile_unusual :
    ofFile unusualFiles fileName = (.ok unusual : Except (Fault Float) Settings) := by
  have hread : unusualFiles.read fileName = .ok unusual.text := by simp [Files.read, unusualFiles]
  rw [ofFile, hread]
  simp only [Settings.ofText?_text]

theorem settings_take_precedence_mixed :
    RenderOptions.settings ⟨none, none, false, false⟩ .csg unusualFiles mixedVariables =
        (.ok ⟨⟨"  ", "> ", true, true, true⟩, some 48⟩ : Except (Fault Float) Settings) ∧
      RenderOptions.settings ⟨none, some fileName, false, false⟩ .csg unusualFiles mixedVariables =
        (.ok unusual : Except (Fault Float) Settings) ∧
      RenderOptions.settings ⟨none, none, true, false⟩ .csg (fun _ => none) (fun _ => none) =
        (.ok ⟨⟨"    ", "", true, false, true⟩, some 60⟩ : Except (Fault Float) Settings) := by
  refine ⟨?_, ?_, ?_⟩
  · obtain ⟨hsettings, -, -, hover⟩ := settings_take_precedence .csg ⟨none, none, false, false⟩
      false unusualFiles mixedVariables
    have hgiven := Given.usual (by simp [unusualFiles]) ofFile_unusual (hover unusual).1
    exact (hsettings _).mpr ⟨_, hgiven, adjusted_iff.mpr (by decide +kernel)⟩
  · obtain ⟨hsettings, -⟩ := settings_take_precedence .csg ⟨none, some fileName, false, false⟩
      false unusualFiles mixedVariables
    exact (hsettings _).mpr ⟨_, .named ofFile_unusual, adjusted_iff.mpr (by decide +kernel)⟩
  · obtain ⟨hsettings, -, -, hover⟩ := settings_take_precedence .csg ⟨none, none, true, false⟩
      false (fun _ => none) (fun _ => none)
    exact (hsettings _).mpr
      ⟨_, .standard rfl (hover Settings.standard).1, adjusted_iff.mpr (by decide +kernel)⟩

end SolidScene.CommandLine
