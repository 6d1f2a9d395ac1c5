import SolidScene.Scad.Layout

/-!
# Settings

How a scene is written out: the layout of its source and the resolution of curved surfaces.
-/
namespace SolidScene

structure Settings where
  layout : Scad.Layout
  /-- The number of fragments of a full circle, stated at the top of an output file. -/
  resolution : Option UInt32
deriving DecidableEq, Repr

namespace Settings

/-- The standard layout and no resolution. -/
def standard : Settings := ⟨Scad.Layout.standard, none⟩

def withResolution (s : Settings) (n : UInt32) : Settings := { s with resolution := some n }

end Settings

end SolidScene
