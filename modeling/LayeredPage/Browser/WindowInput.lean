import LayeredPage.Browser.Document

/-!
# Input on a page

The window's listeners come first for every pointer, wheel, touch, key and drag event. What they
translate goes to the core, which may ask that the page should not act on the event itself; touches
cannot be held back. Keys count only while no control has the focus.
-/

namespace LayeredPage

namespace WindowInput

/-- All listeners of a mounted page on its window, in the order in which they are added. -/
def table : List (String × ListenerOptions × WindowInput) :=
  [("click", .capturing, .mouse .click), ("dblclick", .capturing, .mouse .doubleClick),
    ("mousemove", .capturing, .mouse .move), ("mousedown", .capturing, .mouse .down),
    ("mouseup", .capturing, .mouse .up), ("contextmenu", .capturing, .mouse .contextMenu),
    ("wheel", .capturing, .wheel), ("touchstart", .capturingPassive, .touch .start),
    ("touchmove", .capturingPassive, .touch .move), ("touchend", .capturingPassive, .touch .stop),
    ("keydown", .capturing, .key .down), ("keyup", .capturing, .key .up),
    ("keypress", .capturing, .key .press), ("dragover", .capturing, .dragOver),
    ("drop", .capturing, .drop)]

/-- Whether what the core says about the event can be heeded. -/
def cancellable : WindowInput → Bool
  | .touch _ => false
  | _ => true

/-- What an event reports; nothing for an event of another category. -/
def raw? (e : PageEvent) : WindowInput → Option (RawInput Float)
  | .mouse event =>
    if e.category.isPointer then
      some (.mouse event e.position (.ofNumber e.button) e.modifiers)
    else none
  | .wheel => if e.category = .wheel then some (.wheel e.position e.delta e.modifiers) else none
  | .touch event =>
    if e.category = .touch then
      match event with
      | .start => some (.touchStart e.touches e.changedTouches)
      | .move => some (.touchMove e.touches)
      | .stop => some (.touchEnd e.changedTouches)
    else none
  | .key event =>
    if e.category = .keyboard then some (.key event e.key e.modifiers e.isRepeat) else none
  | .dragOver | .drop => none

end WindowInput

namespace Page

/-- Sends interrupts in order, and holds the event back whenever the core asks for it. -/
def deliverAll (p : Page) (cancellable : Bool) (interrupts : List (Interrupt Float)) : Page :=
  interrupts.foldl (fun p i =>
    let (prevent, p) := p.interrupt i.text none
    if prevent && cancellable then p.note .preventDefault else p) p

/-- Answers a drag over the page: the dragged file would be copied. -/
def dragOver (p : Page) (e : PageEvent) : Page :=
  let p := p.note .preventDefault
  if e.category = .drag && e.files.isSome then p.note (.dropEffect "copy") else p

/-- Takes the first file of a drop. -/
def dropFiles (p : Page) (e : PageEvent) : Page :=
  let p := p.note .preventDefault
  match e.category, e.files with
  | .drag, some (file :: _) => p.spawn (.dropped e.position file)
  | _, _ => p

/-- The row of an element in which an event happened. -/
def rowOf (p : Page) (element : ElementId) (e : PageEvent) : Option UInt32 := do
  let row ← p.parent? (← e.target)
  let i ← (p.children element).findIdx? fun child => decide (child = row)
  return UInt32.ofNat i

/-- What a binding reads from its control. -/
def readInput (p : Page) (element : ElementId) (binding : InputBinding) (e : PageEvent) :
    InputValue Float :=
  match p.element? element with
  | none => .none
  | some control =>
    match binding with
    | .buttonClick => .none
    | .checkboxToggle => if control.isInput then .checked control.checked else .none
    | .textboxInput | .textboxChange => if control.isInput then .text control.value else .none
    | .sliderChange => if control.isInput then .number control.number else .none
    | .dropdownChange =>
      if control.isSelect && 0 ≤ control.selected then .index (UInt32.ofNat control.selected.toNat)
      else .none
    | .radioSetChange =>
      match p.rowOf element e with
      | some i => .index i
      | none => .none
    | .textInput => .text control.html

/-- Reports the value of a control. A checkbox goes back to what it was: the core answers with its
true state. -/
def report (p : Page) (element : ElementId) (id : UInt32) (binding : InputBinding) (e : PageEvent) :
    Page :=
  let value := p.readInput element binding e
  match binding.interrupt? id value with
  | none => p
  | some i =>
    let p := p.send i none
    match binding, value with
    | .checkboxToggle, .checked state =>
      p.modify element fun control => { control with checked := !state }
    | _, _ => p

end Page

end LayeredPage
