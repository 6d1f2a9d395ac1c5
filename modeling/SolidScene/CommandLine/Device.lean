import SolidScene.Disk

/-!
# Devices

What the paths that are no files stand for in a run. A device is read and written in place of a
file, and no disk changes by it.
-/
namespace SolidScene.CommandLine

/-- What a device does with what is read from it or written to it. -/
inductive Device where
  /-- Reads as empty text and keeps nothing. -/
  | null
  /-- Has no end when it is read, and keeps nothing. -/
  | endless
  | full
  /-- The terminal, which a run does not have. -/
  | terminal
  | standardOutput
  | standardError
deriving DecidableEq, Repr

namespace Device

/-- The devices by their paths. Nothing comes in on the standard input of a run. -/
def ofPath? : List String → Option Device
  | ["dev", "null"] => some null
  | ["dev", "zero"] => some endless
  | ["dev", "random"] => some endless
  | ["dev", "urandom"] => some endless
  | ["dev", "full"] => some full
  | ["dev", "tty"] => some terminal
  | ["proc", "self", "fd", "0"] => some null
  | ["proc", "self", "fd", "1"] => some standardOutput
  | ["proc", "self", "fd", "2"] => some standardError
  | _ => none

/-- The device that a name leads to on a disk. -/
def ofName? (disk : Disk) (name : String) : Option Device := (disk.path? name).bind ofPath?

def content : Device → Content
  | null => .ok ""
  | terminal => .error (.refused "No such device or address (os error 6)")
  | _ => .error .notText

end Device

/-- The files that a run can read: those of a disk, and the devices. -/
def filesOn (disk : Disk) : Files := fun name =>
  match Device.ofName? disk name with
  | some device => some device.content
  | none => disk.contents name

end SolidScene.CommandLine
