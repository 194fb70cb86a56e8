import LayeredPage.Wire.Interrupt
import LayeredPage.Wire.Schema

/-!
# Reading interrupts

The other direction of `Interrupt.json`, as a core that knows the schema reads what it is sent.
-/

namespace LayeredPage.Schema

def point? (x y : String) (ms : Members) : Option (Point Float) := do
  return ⟨← required x number? ms, ← required y number? ms⟩

def position? : Members → Option (Point Float) := point? "x" "y"

def delta? : Members → Option (Point Float) := point? "delta_x" "delta_y"

def int? : Json → Option Int
  | .int n => some n
  | _ => none

/-- A whole number of 64 bits without sign. -/
def longWord? : Json → Option UInt64
  | .int n => if 0 ≤ n && n < UInt64.size then some (UInt64.ofNat n.toNat) else none
  | _ => none

def modifiers? : Json → Option (List ModifierKey) :=
  list? (oneOf? ModifierKey.all ModifierKey.name)

def touchReport? (j : Json) : Option (TouchReport Float) := do
  let ms ← members? j
  return ⟨← position? ms, ← required "identifier" int? ms, ← delta? ms⟩

def sizeReport? (j : Json) : Option (SizeReport Float) := do
  let ms ← members? j
  return ⟨← required "id" word? ms, ← required "width" number? ms, ← required "height" number? ms⟩

def id? : Members → Option UInt32 := required "id" word?

/-- Interrupts about a widget. -/
def widgetInterrupt? (name : String) (ms : Members) : Option (Interrupt Float) := do
  match name with
  | "FormButtonClick" => return .buttonClick (← id? ms)
  | "FormCheckboxToggle" => return .checkboxToggle (← id? ms) (← required "state" bool? ms)
  | "FormTextboxInput" => return .textboxInput (← id? ms) (← required "text" string? ms)
  | "FormTextboxChange" => return .textboxChange (← id? ms) (← required "text" string? ms)
  | "FormSliderChange" => return .sliderChange (← id? ms) (← required "value" number? ms)
  | "FormDropdownChange" => return .dropdownChange (← id? ms) (← required "selected_id" word? ms)
  | "FormRadioSetChange" => return .radioSetChange (← id? ms) (← required "selected_id" word? ms)
  | "TextInput" => return .textInput (← id? ms) (← required "text" string? ms)
  | _ => none

/-- Interrupts from the window. -/
def windowInterrupt? (name : String) (ms : Members) : Option (Interrupt Float) := do
  match name with
  | "Clap" => return .clap (← position? ms)
  | "Wheel" => return .wheel (← position? ms) (← delta? ms) (← required "modifiers" modifiers? ms)
  | "DropFile" =>
    return .dropFile (← position? ms) (← required "name" string? ms)
      (← required "mime_type" string? ms) (← required "size" longWord? ms)
  | "Scroll" => return .scroll (← delta? ms)
  | _ => none

def mouseInterrupt? (event : MouseEvent) (ms : Members) : Option (Interrupt Float) := do
  return .mouse event (← position? ms)
    (← required "button" (oneOf? MouseButton.all MouseButton.name) ms)
    (← required "modifiers" modifiers? ms)

def keyInterrupt? (event : KeyEvent) (ms : Members) : Option (Interrupt Float) := do
  return .key event (← required "key" string? ms) (← required "modifiers" modifiers? ms)
    (← required "is_repeat" bool? ms)

/-- The data of an image are wrapped once more. -/
def imageInterrupt? (ms : Members) : Option (Interrupt Float) := do
  let data ← required "Data" members? ms
  return .image (← id? data) (← required "path" string? data) (← required "width" word? data)
    (← required "height" word? data)

/-- The interrupt with this name and payload. -/
def interrupt? (name : String) (payload : Json) : Option (Interrupt Float) := do
  if name == "ChassisResizeRequestCollection" then
    return .sizes (← list? sizeReport? payload)
  let ms ← members? payload
  if name == "Image" then imageInterrupt? ms
  else if let some event := MouseEvent.all.find? fun e => e.name == name then
    mouseInterrupt? event ms
  else if let some event := TouchEvent.all.find? fun e => e.name == name then
    return .touches event (← required "touches" (list? touchReport?) ms)
  else if let some event := KeyEvent.all.find? fun e => e.name == name then
    keyInterrupt? event ms
  else widgetInterrupt? name ms <|> windowInterrupt? name ms

end LayeredPage.Schema

namespace LayeredPage

def Interrupt.ofJson? (j : Json) : Option (Interrupt Float) := do
  let (name, payload) ← Schema.choice? j
  Schema.interrupt? name payload

/-- Reads the text of an interrupt; every number becomes the value nearest to it. -/
def Interrupt.ofText? (text : String) : Option (Interrupt Float) :=
  (Json.readNearest? text).bind Interrupt.ofJson?

end LayeredPage
