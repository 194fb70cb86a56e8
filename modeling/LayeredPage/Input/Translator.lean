import Std.Data.ExtTreeMap
import LayeredPage.Wire.Interrupt

/-!
# Window input

Raw pointer, touch and key events become interrupts. Across events only two things are kept: the
button that was pressed last, and where each active touch was seen last.
-/

namespace LayeredPage

def MouseButton.ofNumber (n : Int) : MouseButton :=
  if n == 0 then .left else if n == 1 then .middle else if n == 2 then .right else .unknown

structure Modifiers where
  shift : Bool
  control : Bool
  alt : Bool
  command : Bool
deriving DecidableEq, Repr

/-- The modifiers held, in a fixed order. -/
def Modifiers.keys (m : Modifiers) : List ModifierKey :=
  (if m.shift then [.shift] else []) ++ (if m.control then [.control] else []) ++
    (if m.alt then [.alt] else []) ++ (if m.command then [.command] else [])

/-- A touch as the page reports it. -/
structure RawTouch (α : Type) where
  identifier : Int
  position : Point α

/-- Input as the page reports it. -/
inductive RawInput (α : Type) where
  | mouse (event : MouseEvent) (position : Point α) (button : MouseButton) (modifiers : Modifiers)
  | wheel (position delta : Point α) (modifiers : Modifiers)
  | touchStart (touches changed : List (RawTouch α))
  | touchMove (touches : List (RawTouch α))
  | touchEnd (changed : List (RawTouch α))
  | key (event : KeyEvent) (key : String) (modifiers : Modifiers) (isRepeat : Bool)

structure InputTranslator (α : Type) where
  pressed : MouseButton
  touches : Std.ExtTreeMap Int (Point α)

namespace InputTranslator

variable {α : Type}

def start : InputTranslator α := ⟨.left, ∅⟩

/-- A move reports the button that was pressed last, since the page names none on moves; a click is
followed by a clap. -/
def mouse (t : InputTranslator α) (event : MouseEvent) (position : Point α) (button : MouseButton)
    (modifiers : Modifiers) : List (Interrupt α) × InputTranslator α :=
  let t := if event = .down then { t with pressed := button } else t
  let reported := if event = .move then t.pressed else button
  let sent := Interrupt.mouse event position reported modifiers.keys
  (if event = .click then [sent, .clap position] else [sent], t)

def wheel (position delta : Point α) (modifiers : Modifiers) : Interrupt α :=
  .wheel position delta modifiers.keys

/-- Notes where a touch is. -/
def note (t : InputTranslator α) (touch : RawTouch α) : InputTranslator α :=
  { t with touches := t.touches.insert touch.identifier touch.position }

def forget (t : InputTranslator α) (touch : RawTouch α) : InputTranslator α :=
  { t with touches := t.touches.erase touch.identifier }

/-- Reports touches in order, each with its movement since it was last seen, and notes them. -/
def track [Scalar α] (t : InputTranslator α) :
    List (RawTouch α) → List (TouchReport α) × InputTranslator α
  | [] => ([], t)
  | touch :: rest =>
    let last := (t.touches[touch.identifier]?).getD touch.position
    let report := TouchReport.mk touch.position touch.identifier (touch.position.sub last)
    let (reports, t) := (t.note touch).track rest
    (report :: reports, t)

/-- All active touches are reported; a clap at the first of them follows. -/
def touchStart [Scalar α] (t : InputTranslator α) (touches changed : List (RawTouch α)) :
    List (Interrupt α) × InputTranslator α :=
  let (reports, t) := t.track touches
  let t := changed.foldl note t
  let clap := match touches with
    | [] => []
    | touch :: _ => [Interrupt.clap touch.position]
  (.touches .start reports :: clap, t)

def touchMove [Scalar α] (t : InputTranslator α) (touches : List (RawTouch α)) :
    Interrupt α × InputTranslator α :=
  let (reports, t) := t.track touches
  (.touches .move reports, t)

/-- The touches that ended are reported once more and forgotten. -/
def touchEnd [Scalar α] (t : InputTranslator α) (changed : List (RawTouch α)) :
    Interrupt α × InputTranslator α :=
  let (reports, t) := t.track changed
  (.touches .stop reports, changed.foldl forget t)

def activeTouches (t : InputTranslator α) : Nat := t.touches.size

def key (event : KeyEvent) (key : String) (modifiers : Modifiers) (isRepeat : Bool) :
    Interrupt α :=
  .key event key modifiers.keys isRepeat

/-- The interrupts of one piece of input. -/
def translate [Scalar α] (t : InputTranslator α) :
    RawInput α → List (Interrupt α) × InputTranslator α
  | .mouse event position button modifiers => t.mouse event position button modifiers
  | .wheel position delta modifiers => ([wheel position delta modifiers], t)
  | .touchStart touches changed => t.touchStart touches changed
  | .touchMove touches =>
    let (i, t) := t.touchMove touches
    ([i], t)
  | .touchEnd changed =>
    let (i, t) := t.touchEnd changed
    ([i], t)
  | .key event name modifiers isRepeat => ([key event name modifiers isRepeat], t)

end InputTranslator

end LayeredPage
