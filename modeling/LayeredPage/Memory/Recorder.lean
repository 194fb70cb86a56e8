import Std.Data.ExtTreeSet
import LayeredPage.Frame.Core

/-!
# A core that remembers

The recorder notes every call in order. It answers from a few settings: which images it has, what it
says to interrupts, and the batch that its next tick returns.
-/

namespace LayeredPage

inductive CoreCall where
  | addContext (layer : Nat)
  | removeContext (layer : Nat)
  | imageLoaded (path : String)
  | viewport (width height : Float)
  | interrupt (text : String) (payload : Option ByteArray)
  | tick
  | render
  | deallocate (span : Batch.Span)

structure Recorder where
  /-- Latest first. -/
  calls : List CoreCall
  loaded : Std.ExtTreeSet String
  preventDefault : Bool
  batch : ByteArray

namespace Recorder

def start : Recorder := ⟨[], ∅, false, ByteArray.empty⟩

def note (r : Recorder) (call : CoreCall) : Recorder := { r with calls := call :: r.calls }

end Recorder

instance : Core Recorder where
  addContext layer r := r.note (.addContext layer)
  removeContext layer r := r.note (.removeContext layer)
  imageLoaded path r := (r.loaded.contains path, r.note (.imageLoaded path))
  viewport width height r := r.note (.viewport width height)
  interrupt text payload r := (r.preventDefault, r.note (.interrupt text payload))
  tick r := (⟨0, r.batch⟩, r.note .tick)
  render r := r.note .render
  deallocate span r := r.note (.deallocate span)

end LayeredPage
