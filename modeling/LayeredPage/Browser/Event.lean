import LayeredPage.Browser.Element
import LayeredPage.Host.Document
import LayeredPage.Input.Translator

/-!
# Events of a page

An event has the fields of every category; which of them mean something is decided by its category.
-/

namespace LayeredPage

inductive EventCategory where
  | plain
  | mouse
  | wheel
  | drag
  | keyboard
  | touch
deriving DecidableEq, Repr

namespace EventCategory

/-- The category by the name of the event's class. -/
def ofName : String → EventCategory
  | "MouseEvent" => .mouse
  | "WheelEvent" => .wheel
  | "DragEvent" => .drag
  | "KeyboardEvent" => .keyboard
  | "TouchEvent" => .touch
  | _ => .plain

/-- Wheel and drag events are pointer events too. -/
def isPointer : EventCategory → Bool
  | .mouse | .wheel | .drag => true
  | .plain | .keyboard | .touch => false

end EventCategory

/-- A file that was dropped; its bytes cannot always be read. -/
structure DroppedFile where
  name : String
  mimeType : String
  size : Float
  bytes : Option ByteArray

structure PageEvent where
  name : String
  category : EventCategory
  position : Point Float
  button : Int
  delta : Point Float
  modifiers : Modifiers
  key : String
  isRepeat : Bool
  target : Option ElementId
  touches : List (RawTouch Float)
  changedTouches : List (RawTouch Float)
  /-- Absent when nothing is dragged. -/
  files : Option (List DroppedFile)

/-- Which window events are listened for, and what becomes of them. -/
inductive WindowInput where
  | mouse (event : MouseEvent)
  | wheel
  | touch (event : TouchEvent)
  | key (event : KeyEvent)
  | dragOver
  | drop
deriving DecidableEq, Repr

/-- What a listener does. -/
inductive Handler where
  /-- Reports the value of a control. -/
  | bound (element : ElementId) (id : UInt32) (binding : InputBinding)
  /-- Tells a scroll sampler that a finger is down or up. -/
  | touching (sampler : SamplerId) (state : Bool)
  | window (input : WindowInput)
  /-- Reports the size of the viewport. -/
  | resize
deriving DecidableEq, Repr

inductive EventTarget where
  | window
  | element (e : ElementId)
deriving DecidableEq, Repr

/-- Whether a listener is called on the way down to the target, and whether it promises not to
cancel the event. -/
structure ListenerOptions where
  capture : Bool
  passive : Bool
deriving DecidableEq, Repr

namespace ListenerOptions

def bubbling : ListenerOptions := ⟨false, false⟩

def capturing : ListenerOptions := ⟨true, false⟩

def capturingPassive : ListenerOptions := ⟨true, true⟩

end ListenerOptions

/-- A listener as its owner knows it. -/
structure Registration where
  serial : Nat
  target : EventTarget
  event : String
  capture : Bool
deriving DecidableEq, Repr

/-- A listener as the page knows it. -/
structure Listener extends Registration where
  handler : Handler
deriving DecidableEq, Repr

end LayeredPage
