import SolidScene.Disk
import SolidScene.Settings.Basic
import SolidScene.Sink
import SolidScene.Solid.Source
import SolidScene.Warning

/-!
# Export

The complete source of a scene, and its ways out: as text, into a sink, into a file. The source is
made before anything is written, so a scene that cannot be emitted leaves sink and disk as they
were.
-/
namespace SolidScene.Solid

variable {α : Type} [Scalar α] [Numeral α]

/-- The resolution line of an output file with the blank line below it, if a resolution is set. -/
def preamble (settings : Settings) : String :=
  match settings.resolution with
  | some n => "$fn = " ++ Nat.repr n.toNat ++ ";\n\n"
  | none => ""

def output (s : Solid α) (settings : Settings) : Except (Fault α) String := do
  let code ← s.node.code settings.layout
  return preamble settings ++ code ++ "\n"

/-- Write a scene into a sink: the state of the sink afterwards, and the fault if there was one. -/
def writeTo {σ : Type} (s : Solid α) (sink : Sink σ) (state : σ) (settings : Settings) :
    σ × Except (Fault α) Unit :=
  match s.output settings with
  | .error fault => (state, .error fault)
  | .ok text =>
    match sink.send text state with
    | (state, .error fault) => (state, .error (.file fault))
    | (state, .ok ()) => (state, .ok ())

/-- Write a scene onto the end of a text in memory. -/
def writeOnto (s : Solid α) (stream : String) (settings : Settings) :
    String × Except (Fault α) Unit :=
  s.writeTo .text stream settings

/-- The log entry of a written file. -/
def writtenEntry (text name : String) : LogEntry :=
  ⟨.debug, "wrote " ++ Nat.repr text.utf8ByteSize ++ " bytes to " ++ name⟩

/-- Write a scene into a file that is created or emptied first: the disk afterwards, and a log entry
or the fault. -/
def writeFile (s : Solid α) (disk : Disk) (name : String) (settings : Settings) :
    Disk × Except (Fault α) LogEntry :=
  match s.output settings with
  | .error fault => (disk, .error fault)
  | .ok text =>
    match disk.create name with
    | .error fault => (disk, .error (.file fault))
    | .ok disk => (disk.append name text, .ok (writtenEntry text name))

end SolidScene.Solid
