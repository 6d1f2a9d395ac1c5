import SolidScene.Fault

/-!
# Sinks

Where text goes when a scene is written out: anything that takes text and can be told to send it on.
Both may fail.
-/
namespace SolidScene

/-- A kind of sink with states `σ`. Text goes into it as UTF-8. What a failed attempt leaves behind
is open. -/
structure Sink (σ : Type) where
  /-- The bytes that have gone in, from the first one on. -/
  bytes : σ → ByteArray
  put : String → σ → σ × Except FileFault Unit
  flush : σ → σ × Except FileFault Unit
  bytes_of_put : ∀ {text before after}, put text before = (after, .ok ()) →
    bytes after = bytes before ++ text.toUTF8
  bytes_of_flush : ∀ {before after}, flush before = (after, .ok ()) → bytes after = bytes before

namespace Sink

/-- Put a text into a sink and send it on. -/
def send {σ : Type} (k : Sink σ) (text : String) (state : σ) : σ × Except FileFault Unit :=
  match k.put text state with
  | (state, .error fault) => (state, .error fault)
  | (state, .ok ()) => k.flush state

/-- Text in memory, which takes everything. -/
def text : Sink String where
  bytes := String.toUTF8
  put text state := (state ++ text, .ok ())
  flush state := (state, .ok ())
  bytes_of_put h := by
    obtain ⟨rfl, -⟩ := Prod.mk.inj h
    exact String.toByteArray_append
  bytes_of_flush h := by
    obtain ⟨rfl, -⟩ := Prod.mk.inj h
    rfl

end Sink

end SolidScene
