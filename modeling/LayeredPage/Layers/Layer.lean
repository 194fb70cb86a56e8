import Std.Data.ExtTreeMap
import LayeredPage.Host.Document

/-!
# Layers

Layer `i` is a canvas and an overlay at depth `i`, the canvas first, so it paints above every lower
layer and below every higher one. The canvas is registered with the core under the number of its
layer. A layer also holds the nodes that stand for clip containers on it.
-/

namespace LayeredPage

/-- Canvases of the live layers. -/
abbrev Surfaces := Std.ExtTreeMap Nat NodeId

/-- What building a layer draws on. -/
structure Workshop where
  pools : NodePools
  surfaces : Surfaces

namespace Workshop

/-- Text of the workshop in diagnostics. -/
def describe (w : Workshop) : String := "Host \x7b pools: " ++ w.pools.describe ++ ", .. \x7d"

def onPools {α : Type} (act : Work NodePools α) : Work Workshop α :=
  Action.focus Workshop.pools (fun pools w => { w with pools }) act

def register (index : Nat) (canvas : NodeId) : Work Workshop Unit := do
  if (← get).surfaces.contains index then
    (Script.broken (.surfaceTwice index) : Script Patching Unit)
  modify fun w => { w with surfaces := w.surfaces.insert index canvas }

def unregister (index : Nat) : Work Workshop Unit := do
  if !(← get).surfaces.contains index then
    (Script.broken (.surfaceMissing index) : Script Patching Unit)
  modify fun w => { w with surfaces := w.surfaces.erase index }

end Workshop

structure Layer where
  index : Nat
  canvas : OwnedNode
  overlay : OwnedNode
  frames : Std.ExtTreeMap UInt32 OwnedNode

namespace Layer

def canvasClass : String := "canvas"

def overlayClass : String := "native-overlay"

/-- Name of the surface of a layer, which is also the id of its canvas. -/
def surfaceName (index : Nat) : String := toString index

/-- A surface in diagnostics. -/
def describeSurface (index : Nat) : String := s!"SurfaceId({index})"

/-- Builds layer `index` under `mount` and registers its surface. -/
def build (mount : NodeId) (index : Nat) : Work Workshop Layer := do
  let canvas ← Workshop.onPools (Pools.take NodeKind.canvas)
  let overlay ← Workshop.onPools (Pools.take NodeKind.div)
  let depth := toString index
  ask (.setAttribute canvas.id "class" canvasClass)
  ask (.setAttribute canvas.id "id" (surfaceName index))
  ask (.setStyle canvas.id "z-index" depth)
  ask (.setAttribute overlay.id "class" overlayClass)
  ask (.setStyle overlay.id "z-index" depth)
  ask (.appendChild mount canvas.id)
  ask (.appendChild mount overlay.id)
  Workshop.register index canvas.id
  tell (.addContext index)
  return ⟨index, canvas, overlay, ∅⟩

/-- Unregisters the surface and gives both nodes back. -/
def cleanUp (l : Layer) : Work Workshop Unit := do
  tell (.removeContext l.index)
  Workshop.unregister l.index
  Workshop.onPools (Pools.put NodeKind.canvas l.canvas)
  Workshop.onPools (Pools.put NodeKind.div l.overlay)

end Layer

end LayeredPage
