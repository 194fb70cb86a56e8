import LayeredPage.Markdown.Editable
import LayeredPage.Wire.Interrupt

/-!
# Bound input

A control reports one value when its event fires; its binding says which event that is and which
interrupt the value becomes. A value that the binding does not read becomes nothing.
-/

namespace LayeredPage

inductive InputValue (α : Type) where
  | none
  | checked (state : Bool)
  | text (s : String)
  | number (x : α)
  | index (n : UInt32)

inductive InputBinding where
  | buttonClick
  | checkboxToggle
  | textboxInput
  | textboxChange
  | sliderChange
  | dropdownChange
  | radioSetChange
  | textInput
deriving DecidableEq, Repr

namespace InputBinding

def all : List InputBinding :=
  [.buttonClick, .checkboxToggle, .textboxInput, .textboxChange, .sliderChange, .dropdownChange,
    .radioSetChange, .textInput]

/-- Name of the binding in diagnostics. -/
def name : InputBinding → String
  | .buttonClick => "ButtonClick"
  | .checkboxToggle => "CheckboxToggle"
  | .textboxInput => "TextboxInput"
  | .textboxChange => "TextboxChange"
  | .sliderChange => "SliderChange"
  | .dropdownChange => "DropdownChange"
  | .radioSetChange => "RadioSetChange"
  | .textInput => "TextInput"

/-- The event that the binding listens for. -/
def event : InputBinding → String
  | .buttonClick => "click"
  | .textboxInput | .sliderChange | .textInput => "input"
  | .checkboxToggle | .textboxChange | .dropdownChange | .radioSetChange => "change"

def interrupt? {α : Type} (b : InputBinding) (id : UInt32) (value : InputValue α) :
    Option (Interrupt α) :=
  match b, value with
  | .buttonClick, _ => some (.buttonClick id)
  | .checkboxToggle, .checked state => some (.checkboxToggle id state)
  | .textboxInput, .text s => some (.textboxInput id s)
  | .textboxChange, .text s => some (.textboxChange id s)
  | .sliderChange, .number x => some (.sliderChange id x)
  | .dropdownChange, .index n => some (.dropdownChange id n)
  | .radioSetChange, .index n => some (.radioSetChange id n)
  | .textInput, .text html => some (.textInput id (Markdown.plainText html))
  | _, _ => none

end InputBinding

end LayeredPage
