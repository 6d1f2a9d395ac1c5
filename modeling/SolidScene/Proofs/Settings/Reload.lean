import SolidScene.Proofs.Toml.Document
import SolidScene.Settings.File

/-!
# Saved settings

Settings are read back from their text, and from the file that they were saved to, whatever their
texts are made of. What a settings file leaves out gets its default, so a written value may not be
passed over: every key of the layout is written.
-/
namespace SolidScene

namespace Settings

open Toml (Item Entries Reading ReadsAs IsBareKey)
open Scad (Layout)

/-! ## Values -/

theorem readsAs_boolText (size : Nat) (b : Bool) :
    ReadsAs size (boolText b).toList (.boolean b) := by
  cases b
  · exact Toml.readsAs_word (by decide) (List.all_eq_true.mp rfl) rfl
  · exact Toml.readsAs_word (by decide) (List.all_eq_true.mp rfl) rfl

theorem isWordChar_of_isDigit {c : Char} (h : c.isDigit = true) : Toml.isWordChar c = true := by
  simp [Toml.isWordChar, Toml.isBareChar, Char.isAlphanum, h]

theorem readsAs_resolution (size : Nat) (n : UInt32) :
    ReadsAs size (Nat.repr n.toNat).toList (.integer n.toNat) := by
  have hsize : (n.toNat : Int) ≤ Int64.maxValue.toInt :=
    Int.le_trans (Int.ofNat_le.mpr (Nat.le_of_lt n.toNat_lt)) (by decide)
  rw [Nat.toList_repr]
  exact Toml.readsAs_word Nat.toDigits_ne_nil
    (fun c hc => isWordChar_of_isDigit (Toml.allDigits_toDigits _ c hc))
    (Toml.ofWord?_toDigits hsize)

/-! ## Entries -/

/-- The entries of a layout, the latest first. -/
def layoutEntries (l : Layout) : Entries :=
  [("comments", .boolean l.comments), ("simplify", .boolean l.simplify),
    ("inline", .boolean l.inline), ("top_indent", .text l.topIndent), ("indent", .text l.indent)]

/-- The entries of the root above the layout. -/
def resolutionEntries : Option UInt32 → Entries
  | some n => [("resolution", .integer n.toNat)]
  | none => []

theorem ofEntries?_entries (s : Settings) :
    ofEntries? (("emit", .table .header (layoutEntries s.layout)) ::
      resolutionEntries s.resolution) = some s := by
  obtain ⟨layout, resolution⟩ := s
  have hlayout : layoutOfItem (some (.table .header (layoutEntries layout))) = some layout := rfl
  cases resolution with
  | none => rfl
  | some n =>
    have hbounds : (0 ≤ (n.toNat : Int) && (n.toNat : Int) < UInt32.size) = true := by
      rw [Bool.and_eq_true, decide_eq_true_eq, decide_eq_true_eq]
      exact ⟨Int.natCast_nonneg _, Int.ofNat_lt.mpr n.toNat_lt⟩
    have hresolution : resolutionOfItem (some (.integer n.toNat)) = some (some n) := by
      rw [resolutionOfItem, if_pos hbounds, Int.toNat_natCast, UInt32.ofNat_toNat]
    change (layoutOfItem (some (.table .header (layoutEntries layout)))).bind (fun l =>
      (resolutionOfItem (some (.integer n.toNat))).bind fun r => some (⟨l, r⟩ : Settings)) = _
    rw [hlayout, hresolution]
    rfl

theorem pair_emit {root inner : Entries} {key : String} {item : Item}
    (hroot : ∀ e ∈ root, e.1 ≠ "emit") (hkey : inner.lookup key = none) :
    Reading.pair ⟨("emit", .table .header inner) :: root, ["emit"]⟩ [] key item =
      some ⟨("emit", .table .header ((key, item) :: inner)) :: root, ["emit"]⟩ := by
  have hentry : Toml.assign [] key item .header inner = some ((key, item) :: inner) := by
    simp [Toml.assign, Toml.descend, Toml.addEntry, hkey]
  have hreplace (entry : Item) :
      Entries.replace "emit" entry (("emit", .table .header inner) :: root) =
        ("emit", entry) :: root := by
    have hrest : root.map (fun e => if e.1 == "emit" then ("emit", entry) else e) = root :=
      (List.map_congr_left fun e he => if_neg (by simpa using hroot e he)).trans (List.map_id root)
    exact congrArg (("emit", entry) :: ·) hrest
  simp [Reading.pair, Toml.descend, hentry, hreplace]

/-- A line of the layout adds its entry to the table of the layout. -/
theorem lines?_emit {size lines : Nat} {root inner : Entries} {key : String}
    {written : List Char} {item : Item} (hroot : ∀ e ∈ root, e.1 ≠ "emit")
    (hkey : IsBareKey key.toList) (hnew : inner.lookup key = none)
    (hvalue : ReadsAs size written item) (rest : List Char) :
    Toml.lines? size (lines + 1) ⟨("emit", .table .header inner) :: root, ["emit"]⟩
        (key.toList ++ ' ' :: '=' :: ' ' :: (written ++ '\n' :: rest)) =
      Toml.lines? size lines ⟨("emit", .table .header ((key, item) :: inner)) :: root, ["emit"]⟩
        rest := by
  rw [Toml.lines?_pair hkey hvalue, pair_emit hroot hnew, Option.bind_some]

theorem header_emit {root : Entries} (hroot : ∀ e ∈ root, e.1 ≠ "emit") :
    Reading.header ⟨root, []⟩ [] "emit" Toml.openTable =
      some ⟨("emit", .table .header []) :: root, ["emit"]⟩ := by
  have hlookup : root.lookup "emit" = none :=
    List.lookup_eq_none_iff.mpr fun e he => by simpa using (hroot e he).symm
  simp [Reading.header, Toml.descend, Toml.openTable, hlookup]

theorem toList_layoutText (l : Layout) : (layoutText l).toList =
    '[' :: ("emit".toList ++ ']' :: '\n' ::
      ("indent".toList ++ ' ' :: '=' :: ' ' :: (Toml.quoteChars l.indent.toList ++ '\n' ::
      ("top_indent".toList ++ ' ' :: '=' :: ' ' :: (Toml.quoteChars l.topIndent.toList ++ '\n' ::
      ("inline".toList ++ ' ' :: '=' :: ' ' :: ((boolText l.inline).toList ++ '\n' ::
      ("simplify".toList ++ ' ' :: '=' :: ' ' :: ((boolText l.simplify).toList ++ '\n' ::
      ("comments".toList ++ ' ' :: '=' :: ' ' :: ((boolText l.comments).toList ++ '\n' ::
      []))))))))))) := by
  unfold layoutText Toml.quote
  simp

/-- The table of a layout is read as its header and one line for each choice. -/
theorem lines?_layoutText (size lines : Nat) (l : Layout) {root : Entries}
    (hroot : ∀ e ∈ root, e.1 ≠ "emit") :
    Toml.lines? size (lines + 7) ⟨root, []⟩ (layoutText l).toList =
      some (("emit", .table .header (layoutEntries l)) :: root) := by
  rw [toList_layoutText, Toml.lines?_header (by decide), header_emit hroot, Option.bind_some,
    lines?_emit hroot (by decide) rfl (Toml.readsAs_quoteChars _ _),
    lines?_emit hroot (by decide) rfl (Toml.readsAs_quoteChars _ _),
    lines?_emit hroot (by decide) rfl (readsAs_boolText _ _),
    lines?_emit hroot (by decide) rfl (readsAs_boolText _ _),
    lines?_emit hroot (by decide) rfl (readsAs_boolText _ _),
    String.ofList_toList, String.ofList_toList]
  rfl

theorem le_length_layoutText (l : Layout) : 9 ≤ (layoutText l).toList.length := by
  unfold layoutText
  simp only [String.toList_append, List.length_append]
  have hheader : "[emit]\n".toList.length = 7 := rfl
  have hindent : "indent = ".toList.length = 9 := rfl
  omega

theorem document?_text (s : Settings) : Toml.document? s.text =
    some (("emit", .table .header (layoutEntries s.layout)) :: resolutionEntries s.resolution) := by
  obtain ⟨layout, resolution⟩ := s
  have hlength := le_length_layoutText layout
  cases resolution with
  | none =>
    have htext : text ⟨layout, none⟩ = layoutText layout := String.empty_append
    obtain ⟨k, hk⟩ := Nat.exists_eq_add_of_le' hlength
    have hhead : (layoutText layout).toList.head? ≠ some '\ufeff' := by
      simp [toList_layoutText]
    rw [htext, Toml.document?_eq hhead, hk]
    exact lines?_layoutText _ (k + 3) layout nofun
  | some n =>
    have htext : (text ⟨layout, some n⟩).toList = "resolution".toList ++ ' ' :: '=' :: ' ' ::
        ((Nat.repr n.toNat).toList ++ '\n' :: '\n' :: (layoutText layout).toList) := by
      change ("resolution = " ++ Nat.repr n.toNat ++ "\n\n" ++ layoutText layout).toList = _
      simp
    have hhead : (text ⟨layout, some n⟩).toList.head? ≠ some '\ufeff' := by
      simp [htext]
    have hsize : 9 ≤ (text ⟨layout, some n⟩).toList.length := by
      rw [htext]
      simp only [List.length_append, List.length_cons]
      omega
    obtain ⟨k, hk⟩ := Nat.exists_eq_add_of_le' hsize
    have hpair : Reading.pair ⟨[], []⟩ [] "resolution" (.integer n.toNat) =
        some ⟨resolutionEntries (some n), []⟩ := rfl
    rw [Toml.document?_eq hhead, hk, htext, Toml.lines?_pair (by decide) (readsAs_resolution _ n),
      hpair, Option.bind_some, Toml.lines?_blank]
    exact lines?_layoutText _ (k + 1) layout (by simp [resolutionEntries])

/-- The text of settings is read back as these settings. -/
theorem ofText?_text (s : Settings) : ofText? s.text = some s := by
  rw [ofText?, document?_text, Option.bind_some, ofEntries?_entries]

end Settings

/-! ## Files -/

namespace Disk

/-- A file can be put under the name: in a directory that takes files, and not over a directory. -/
def Takes (disk : Disk) (name : String) : Prop :=
  ∃ path, disk.path? name = some path ∧ path ∉ disk.directories ∧ takesFile path

/-- A file that was written is read under the name that it was written under. -/
theorem read_of_write {disk after : Disk} {name text : String}
    (h : disk.write name text = .ok after) : after.contents.read name = .ok text := by
  unfold write at h
  split at h
  · cases h
  · next path hpath =>
    split at h
    · cases h
    split at h
    · cases h
    obtain rfl := Except.ok.inj h
    have hafter : Disk.path? { disk with
        files := (path, .ok text) :: disk.files.filter (·.1 != path) } name = some path := hpath
    simp [Files.read, contents, hafter, file?]

end Disk

namespace Settings

variable {α : Type}

/-- Whether settings can be saved is up to the disk and the name: no settings are refused. -/
theorem exists_save_iff (s : Settings) (disk : Disk) (name : String) :
    (∃ after, save s disk name = (.ok after : Except (Fault α) Disk)) ↔ disk.Takes name := by
  unfold save Disk.write Disk.Takes
  cases disk.path? name with
  | none => simp
  | some path =>
    by_cases hdirectory : path ∈ disk.directories
    · simp [hdirectory]
    · cases htakes : Disk.takesFile path <;> simp [hdirectory, htakes]

/-- Settings can be saved under every name that takes a file, and are read back from there. -/
theorem ofFile_of_save (s : Settings) (disk : Disk) (name : String) :
    ((∃ after, save s disk name = (.ok after : Except (Fault α) Disk)) ↔ disk.Takes name) ∧
      ∀ after, save s disk name = (.ok after : Except (Fault α) Disk) →
        ofFile after.contents name = (.ok s : Except (Fault α) Settings) := by
  refine ⟨exists_save_iff s disk name, fun after h => ?_⟩
  have hwrite : disk.write name s.text = .ok after := by
    unfold save at h
    split at h
    · cases h
    · next heq => rw [heq, Except.ok.inj h]
  rw [ofFile, Disk.read_of_write hwrite]
  simp only [ofText?_text]

/-- Settings whose texts are full of quotes, line ends and control characters. -/
def awkward : Settings where
  layout := ⟨"\t\"quoted\" '''three''' \\ \r\n\x07", "\"\"\"\n'", true, false, true⟩
  resolution := some 4294967295

theorem ofFile_of_save_awkward : (Disk.ofFiles []).Takes "scene.toml" ∧ ∃ after : Disk,
    save awkward (Disk.ofFiles []) "scene.toml" = (.ok after : Except (Fault Float) Disk) ∧
    ofFile after.contents "scene.toml" = (.ok awkward : Except (Fault Float) Settings) := by
  have htakes : (Disk.ofFiles []).Takes "scene.toml" :=
    ⟨["tmp", "/", "scene.toml"], by decide +kernel, by decide +kernel, by decide⟩
  obtain ⟨hsaved, hread⟩ := ofFile_of_save (α := Float) awkward (Disk.ofFiles []) "scene.toml"
  obtain ⟨after, hsave⟩ := hsaved.mpr htakes
  exact ⟨htakes, after, hsave, hread after hsave⟩

end Settings

end SolidScene
