import SolidScene.CommandLine.Run
import SolidScene.Proofs.Settings.Reload

/-!
# Ways out of a scene

A scene leaves as text, into a sink, or into a file. All three take the same text, and a scene that
cannot be emitted leaves none of them anything: the fault is the same, the sink is not touched, and
a file that was there keeps what it held. Whether a scene that can be emitted gets out is up to the
sink and to the disk alone. Nothing is said about what a sink holds once it has failed.
-/
namespace SolidScene

/-! ## Files -/

namespace Disk

variable {d after : Disk} {name text : String}

theorem write_ok_iff : d.write name text = .ok after ↔
    ∃ path, d.path? name = some path ∧ path ∉ d.directories ∧ takesFile path ∧
      { d with files := (path, .ok text) :: d.files.filter (·.1 != path) } = after := by
  unfold write
  cases d.path? name with
  | none => simp
  | some path =>
    by_cases hdirectory : path ∈ d.directories
    · simp [hdirectory]
    · cases htakes : takesFile path <;> simp [hdirectory, htakes]

theorem exists_write_iff : (∃ after, d.write name text = .ok after) ↔ d.Takes name := by
  simp only [write_ok_iff, Takes]
  constructor
  · rintro ⟨after, path, hpath, hdirectory, htakes, -⟩
    exact ⟨path, hpath, hdirectory, htakes⟩
  · rintro ⟨path, hpath, hdirectory, htakes⟩
    exact ⟨_, path, hpath, hdirectory, htakes, rfl⟩

/-- Text behind the end of an empty file is all that it holds, and the other files are passed over. -/
theorem append_emptied {path : List String} (hpath : d.path? name = some path) :
    append { d with files := (path, .ok "") :: d.files.filter (·.1 != path) } name text =
      { d with files := (path, .ok text) :: d.files.filter (·.1 != path) } := by
  have hempty : Disk.path? { d with
      files := (path, .ok "") :: d.files.filter (·.1 != path) } name = some path := hpath
  have hothers : (d.files.filter (·.1 != path)).map
      (fun f => if f.1 == path then (f.1, f.2.map (· ++ text)) else f) =
        d.files.filter (·.1 != path) := by
    refine (List.map_congr_left fun f hf => if_neg ?_).trans (List.map_id _)
    simpa using (List.mem_filter.mp hf).2
  have hfirst : (.ok "" : Content).map (· ++ text) = .ok text :=
    congrArg Except.ok String.empty_append
  rw [append, hempty]
  simp only [List.map_cons, hothers, beq_self_eq_true, if_true, hfirst]

/-- To write a file is to empty it and to put the text behind its end. -/
theorem write_eq_append_create :
    d.write name text = (d.create name).map fun empty => empty.append name text := by
  unfold create write
  cases hpath : d.path? name with
  | none => rfl
  | some path =>
    by_cases hdirectory : path ∈ d.directories
    · simp [hdirectory, Except.map]
    · cases htakes : takesFile path with
      | false => simp [hdirectory, htakes, Except.map]
      | true =>
        simp only [List.contains_iff_mem, hdirectory, htakes, if_false, Bool.not_true,
          Bool.false_eq_true, Except.map, append_emptied hpath]

/-- Writing touches no other file. -/
theorem file?_of_write (h : d.write name text = .ok after) {path : List String}
    (hpath : d.path? name ≠ some path) : after.file? path = d.file? path := by
  obtain ⟨written, hwritten, -, -, rfl⟩ := write_ok_iff.mp h
  have hne : written ≠ path := fun heq => hpath (heq ▸ hwritten)
  have hkept (f : List String × Content) : (f.1 != written && f.1 == path) = (f.1 == path) := by
    by_cases heq : f.1 = path
    · simp [heq, hne.symm]
    · simp [heq]
  rw [file?, file?, List.find?_cons_of_neg (by simpa using hne), List.find?_filter]
  simp only [← Bool.and_eq_true, hkept, Bool.decide_eq_true]

end Disk

/-! ## Sinks -/

/-- A sink that has taken a text and sent it on holds the text behind what it held. -/
theorem Sink.bytes_of_send {σ : Type} {sink : Sink σ} {text : String} {before after : σ}
    (h : sink.send text before = (after, .ok ())) :
    sink.bytes after = sink.bytes before ++ text.toUTF8 := by
  unfold send at h
  split at h
  · cases h
  · next between hput => rw [sink.bytes_of_flush h, sink.bytes_of_put hput]

/-! ## Scenes -/

namespace Solid

variable {α : Type} [Scalar α] [Numeral α]

/-- The lines of a scene file around the source of the scene. The last one is empty, so the file
ends with a line end. -/
def fileLines (settings : Settings) (code : String) : List String :=
  match settings.resolution with
  | some n => ["$fn = " ++ Nat.repr n.toNat ++ ";", "", code, ""]
  | none => [code, ""]

theorem output_eq (s : Solid α) (settings : Settings) :
    s.output settings =
      (s.node.code settings.layout).map fun code => "\n".intercalate (fileLines settings code) := by
  unfold output
  cases s.node.code settings.layout with
  | error fault => rfl
  | ok code =>
    refine congrArg Except.ok ?_
    unfold preamble fileLines
    cases settings.resolution with
    | none => exact String.ext (by simp)
    | some n => exact String.ext (by simp)

theorem writeFile_eq (s : Solid α) (disk : Disk) (name : String) (settings : Settings) :
    s.writeFile disk name settings =
      match s.output settings with
      | .error fault => (disk, .error fault)
      | .ok text =>
        match disk.write name text with
        | .error fault => (disk, .error (.file fault))
        | .ok after => (after, .ok (writtenEntry text name)) := by
  unfold writeFile
  cases s.output settings with
  | error fault => rfl
  | ok text =>
    simp only [Disk.write_eq_append_create]
    cases disk.create name <;> rfl

section

variable {σ : Type} (s : Solid α) (settings : Settings) (sink : Sink σ) (state : σ) (disk : Disk)
  (name : String)

/-- Every way out ends with the fault, and sink and disk are as they were. -/
structure Withheld (fault : Fault α) : Prop where
  output : s.output settings = .error fault
  writeTo : s.writeTo sink state settings = (state, .error fault)
  writeFile : s.writeFile disk name settings = (disk, .error fault)

/-- Every way out takes the text. Writing succeeds exactly if the sink or the disk takes it; then the
sink holds it behind what it held, and the file holds nothing else. -/
structure Delivered (text : String) : Prop where
  output : s.output settings = .ok text
  writeTo_iff : ∀ after,
    s.writeTo sink state settings = (after, .ok ()) ↔ sink.send text state = (after, .ok ())
  appended : ∀ after, s.writeTo sink state settings = (after, .ok ()) →
    sink.bytes after = sink.bytes state ++ text.toUTF8
  writeFile_iff : (∃ after entry, s.writeFile disk name settings = (after, .ok entry)) ↔
    disk.Takes name
  replaced : ∀ after entry, s.writeFile disk name settings = (after, .ok entry) →
    after.contents.read name = .ok text
  others : ∀ after entry, s.writeFile disk name settings = (after, .ok entry) →
    ∀ path, disk.path? name ≠ some path → after.file? path = disk.file? path

end

section

variable {σ : Type} {s : Solid α} {settings : Settings}

theorem withheld (sink : Sink σ) (state : σ) (disk : Disk) (name : String) {fault : Fault α}
    (h : s.output settings = .error fault) : Withheld s settings sink state disk name fault where
  output := h
  writeTo := by rw [writeTo, h]
  writeFile := by rw [writeFile, h]

theorem writeTo_ok_iff {sink : Sink σ} {state after : σ} {text : String}
    (h : s.output settings = .ok text) :
    s.writeTo sink state settings = (after, .ok ()) ↔ sink.send text state = (after, .ok ()) := by
  simp only [writeTo, h]
  obtain ⟨reached, fault | _⟩ := sink.send text state
  · simp
  · simp

theorem writeFile_ok_iff {disk after : Disk} {name text : String} {entry : LogEntry}
    (h : s.output settings = .ok text) :
    s.writeFile disk name settings = (after, .ok entry) ↔
      disk.write name text = .ok after ∧ writtenEntry text name = entry := by
  simp only [writeFile_eq, h]
  cases disk.write name text with
  | error fault => simp
  | ok reached => simp

theorem delivered (sink : Sink σ) (state : σ) (disk : Disk) (name : String) {text : String}
    (h : s.output settings = .ok text) : Delivered s settings sink state disk name text where
  output := h
  writeTo_iff _ := writeTo_ok_iff h
  appended _ hdone := Sink.bytes_of_send ((writeTo_ok_iff h).mp hdone)
  writeFile_iff := by
    have htakes : (∃ after, disk.write name text = .ok after) ↔ disk.Takes name :=
      Disk.exists_write_iff
    rw [← htakes]
    simp only [writeFile_ok_iff h]
    constructor
    · rintro ⟨after, entry, hwrite, -⟩
      exact ⟨after, hwrite⟩
    · rintro ⟨after, hwrite⟩
      exact ⟨after, _, hwrite, rfl⟩
  replaced _ _ hdone := Disk.read_of_write ((writeFile_ok_iff h).mp hdone).1
  others _ _ hdone _ hpath := Disk.file?_of_write ((writeFile_ok_iff h).mp hdone).1 hpath

end

/-- All ways out of a scene agree. If its source cannot be emitted, then each ends with the fault of
the emission and leaves sink and disk as they were. Otherwise each takes the resolution and a blank
line, if a resolution is set, then the source and a line end. -/
theorem exports_agree {σ : Type} (s : Solid α) (settings : Settings) (sink : Sink σ) (state : σ)
    (disk : Disk) (name : String) :
    (∀ fault, s.node.code settings.layout = .error fault →
        Withheld s settings sink state disk name fault) ∧
      ∀ code, s.node.code settings.layout = .ok code →
        Delivered s settings sink state disk name
          ("\n".intercalate (fileLines settings code)) := by
  constructor
  · intro fault hcode
    have houtput : s.output settings = .error fault := by rw [output_eq, hcode]; rfl
    exact withheld sink state disk name houtput
  · intro code hcode
    have houtput : s.output settings = .ok ("\n".intercalate (fileLines settings code)) := by
      rw [output_eq, hcode]
      rfl
    exact delivered sink state disk name houtput

/-- A disk with a file that is longer than the scene of a ball. -/
def occupied : Disk := Disk.ofFiles [("out.scad", .ok "cube([1, 1, 1]); cube([2, 2, 2]);")]

theorem exports_agree_ball :
    ((∃ after entry, (sphere (1 : Float)).value.writeFile occupied "out.scad"
          (Settings.standard.withResolution 60) = (after, .ok entry) ∧
        after.contents.read "out.scad" = .ok "$fn = 60;\n\nsphere(1);\n") ∧
      (sphere (1 : Float)).value.writeTo .text "// " (Settings.standard.withResolution 60) =
        ("// $fn = 60;\n\nsphere(1);\n", .ok ())) ∧
      (sphere (1 / 0 : Float)).value.writeFile occupied "out.scad" .standard =
        (occupied, .error (.nonFinite (1 / 0))) := by
  have htakes : occupied.Takes "out.scad" :=
    ⟨["tmp", "/", "out.scad"], by decide +kernel, by decide +kernel, by decide⟩
  constructor
  · obtain ⟨-, hdelivered⟩ := exports_agree (sphere (1 : Float)).value
      (Settings.standard.withResolution 60) .text "// " occupied "out.scad"
    have hball := hdelivered "sphere(1);" (by with_unfolding_all rfl)
    obtain ⟨after, entry, hdone⟩ := hball.writeFile_iff.mpr htakes
    exact ⟨⟨after, entry, hdone, hball.replaced after entry hdone⟩,
      (hball.writeTo_iff _).mpr rfl⟩
  · obtain ⟨hwithheld, -⟩ := exports_agree (sphere (1 / 0 : Float)).value .standard .text ""
      occupied "out.scad"
    exact (hwithheld _ (by with_unfolding_all rfl)).writeFile

end Solid

/-! ## The command line -/

namespace CommandLine

/-- A scene that the command line stores under the name of a file is stored as `writeFile` does it,
and the run succeeds if that does. -/
theorem onDisk_storedScene (demo : Demo) (scene : Solid Float) (settings : Settings)
    (verbose : Bool) {disk : Disk} {name : String} (hfile : Device.ofName? disk name = none) :
    ((storedScene demo scene settings name verbose).onDisk disk).1 =
        (scene.writeFile disk name settings).1 ∧
      (((storedScene demo scene settings name verbose).onDisk disk).2.code = 0 ↔
        ∃ entry, (scene.writeFile disk name settings).2 = .ok entry) := by
  rw [Solid.writeFile_eq]
  unfold storedScene
  cases scene.output settings with
  | error fault => simp [Outcome.onDisk, Report.failed, Report.behind]
  | ok text =>
    simp only [Outcome.onDisk, hfile]
    cases disk.write name text with
    | error fault => simp [Report.failed, Report.behind]
    | ok after => simp [Report.behind]

end CommandLine

end SolidScene
