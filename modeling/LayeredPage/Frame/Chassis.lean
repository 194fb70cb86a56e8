import LayeredPage.Frame.Core
import LayeredPage.Widgets.Scene
import LayeredPage.Wire.Batch
import LayeredPage.Wire.Interrupt

/-!
# Frames

One frame reports scroll movement, clears the canvases, ticks the core, applies its batch, paints,
and hands the batch back. The first batch that can be read is preceded by the size of the viewport.
When a batch fails it is still handed back, and nothing is painted.
-/

namespace LayeredPage

/-- What one frame did. -/
structure FrameReport where
  first : Bool
  patches : Nat
  scrolled : Nat
deriving DecidableEq, Repr

structure Chassis where
  scene : Scene
  initialized : Bool

namespace Chassis

variable [Wording]

abbrev Step := Action (Script Framing) Chassis

/-- Mounts the chassis into `mount`. -/
def attach (mount : NodeId) (config : Config) : Script Framing (Except PatchError Chassis) := do
  return (← (Scene.attach mount config).embed framePatching).map fun scene => ⟨scene, false⟩

def onScene {α : Type} (act : Work Scene α) : Step α :=
  fun c => do
    let (result, scene) ← (act c.scene).embed framePatching
    return (result, { c with scene })

/-- Sends an interrupt; tells whether the page should not act on the event itself. -/
def send (i : Interrupt Float) (payload : Option ByteArray) : Script Framing Bool :=
  call (.interrupt i.text payload)

/-- Reports a new size of the viewport. -/
def resize (width height : Float) : Script Framing Unit := call (.viewport width height)

def isMovement (delta : Point Float) : Bool := !(delta.x == 0 && delta.y == 0)

/-- Reports the movements since the last frame; gives their number. -/
def reportScrolling (now : Float) : Step Nat := do
  let deltas ← ((← get).scene.scrollDeltas now).embed framePatching
  let moved := (deltas.map (·.2)).filter isMovement
  moved.forM fun delta => do
    let _ ← send (.scroll delta) none
  return moved.length

/-- Reads and applies a batch; gives the number of its patches. -/
def applyBatch (bytes : ByteArray) (width height : Float) : Step Nat := do
  match Batch.decode bytes with
  | .error why => throw why
  | .ok patches =>
    if !(← get).initialized then
      call (.viewport width height)
      modify fun c => { c with initialized := true }
    onScene (Scene.applyAll patches)
    return patches.length

def frame (now ratio width height : Float) : Step FrameReport := do
  let first := !(← get).initialized
  let scrolled ← reportScrolling now
  ((← get).scene.clearSurfaces ratio).embed framePatching
  let span ← call .tick
  let applied ← Action.outcome (applyBatch span.bytes width height)
  if applied matches .ok _ then call .render
  call (.deallocate span)
  match applied with
  | .ok patches => return { first, patches, scrolled }
  | .error why => throw why

end Chassis

end LayeredPage
