import LayeredPage.Browser.Event
import LayeredPage.Memory.Recorder
import LayeredPage.Style.Affine

/-!
# What is asked of a page

Changes to elements show in the elements. Everything else that is asked of the page, and every call
to the core behind it, is one of these.
-/

namespace LayeredPage

inductive CanvasCall where
  | save
  | restore
  | setTransform (t : Affine)
  | clearRect (x y width height : Float)
  | scale (x y : Float)

inductive PageCall where
  | core (call : CoreCall)
  | listen (target : EventTarget) (event : String) (options : ListenerOptions)
  | unlisten (r : Registration)
  | preventDefault
  | dropEffect (effect : String)
  | setInterval (id : Nat) (delay : Nat)
  | clearInterval (id : Nat)
  | setTimeout (id : Nat) (delay : Nat)
  | requestFrame (id : Nat)
  | cancelFrame (id : Nat)
  | canvas (element : ElementId) (call : CanvasCall)
  | observe (element : ElementId)
  | unobserve (element : ElementId)
  | disconnect
  | fetch (url : String)
  | offscreen (width height : UInt32)
  | closeBitmap
  | fontFace (family source : String) (style : Option FontStyle) (weight : Option FontWeight)
  | addFont (family : String)
  | selectRange (element : ElementId) (start stop : Nat)
  /-- A frame was handed to a loop that drives no chassis. -/
  | frame (timestamp now : Float)

end LayeredPage
