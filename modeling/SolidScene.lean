import SolidScene.Main
import SolidScene.Operand
import SolidScene.Proofs.CommandLine.Precedence
import SolidScene.Proofs.Construction
import SolidScene.Proofs.Export
import SolidScene.Proofs.Outline.Branches
import SolidScene.Proofs.Scad.Emission
import SolidScene.Proofs.Scad.Escapes
import SolidScene.Proofs.Scad.Faults
import SolidScene.Proofs.Scad.Indents
import SolidScene.Proofs.Scad.Uncommented
import SolidScene.Proofs.Settings.Reload
import SolidScene.Proofs.Solid.Expression
import SolidScene.Proofs.Solid.Grouping
import SolidScene.Proofs.Solid.Guarded
import SolidScene.Proofs.Solid.Legible
import SolidScene.Proofs.Solid.Placing
import SolidScene.Proofs.Solid.Standing
import SolidScene.Proofs.Solid.Subtracting
import SolidScene.Proofs.Solid.WellFormed
import SolidScene.Proofs.Solid.Zeros
import SolidScene.Proofs.Transform.Affine
import SolidScene.Proofs.Transform.Aligning
import SolidScene.Proofs.Transform.Ambiguous
import SolidScene.Proofs.Transform.Intrinsic
import SolidScene.Proofs.Transform.Opposite
import SolidScene.Proofs.Transform.Rendering
import SolidScene.Proofs.Transform.Reversal
import SolidScene.Proofs.Transform.Rigid
import SolidScene.Proofs.Transform.Singular
import SolidScene.Proofs.Transform.Undo
import SolidScene.Text.CodeRange
import SolidScene.Text.Extending
import SolidScene.Text.Unprintable
import SolidScene.Transform.Inverse
