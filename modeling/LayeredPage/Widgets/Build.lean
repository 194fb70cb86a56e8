import LayeredPage.Widgets.Styling

/-!
# Building widgets

The parts that each kind of element has below its leaf, with the input bound on them.
-/

namespace LayeredPage.Craft

open Styling (attr style setForm)

def listen (spot : Spot) (id : UInt32) (binding : InputBinding) : Craft Unit :=
  Styling.write spot (.bind id binding)

/-- Takes a node and hangs it under `parent`, as the next part. -/
def addPart (parent : Spot) (kind : NodeKind) : Craft Spot := call (.addPart parent kind)

def buildText (id : UInt32) : Craft Unit := do
  let text ← addPart .leaf .div
  listen text id .textInput

def buildButton (id : UInt32) : Craft Unit := do
  let button ← addPart .leaf .button
  let container ← addPart button .div
  let text ← addPart container .div
  attr button "class" "button-styles"
  attr container "class" "button-text-container"
  style text "margin" "0"
  listen button id .buttonClick

def buildCheckbox (id : UInt32) : Craft Unit := do
  let input ← addPart .leaf .input
  setForm input (.inputType "checkbox")
  attr input "class" "checkbox-styles"
  style input "margin" "0"
  listen input id .checkboxToggle

def buildTextbox (id : UInt32) : Craft Unit := do
  let input ← addPart .leaf .input
  setForm input (.inputType "text")
  style input "margin" "0"
  style input "padding" "0"
  style input "padding-inline" "5px 5px"
  style input "padding-block" "0"
  style input "border-width" "0"
  listen input id .textboxInput
  listen input id .textboxChange

def buildSlider (id : UInt32) : Craft Unit := do
  let input ← addPart .leaf .input
  setForm input (.inputType "range")
  style input "padding" "0px"
  style input "margin" "0px"
  style input "appearance" "none"
  style input "display" "block"
  style .leaf "overflow" "visible"
  listen input id .sliderChange

def buildDropdown (id : UInt32) : Craft Unit := do
  let select ← addPart .leaf .select
  listen select id .dropdownChange

def buildRadioSet (id : UInt32) : Craft Unit := do
  let fieldset ← addPart .leaf .fieldset
  style fieldset "border-width" "0"
  style fieldset "margin" "0"
  style fieldset "padding" "0"
  listen fieldset id .radioSetChange

/-- A scroller is sampled from the start. -/
def buildScroller (scroll : ScrollConfig Float) : Craft Unit := do
  let _ ← addPart .leaf .div
  call (.sample (.start scroll) scroll.sampleInterval)

/-- Builds what an element of this kind has below its leaf. -/
def build (config : Config) (id : UInt32) : Widget → Craft Unit
  | .text => buildText id
  | .button => buildButton id
  | .checkbox => buildCheckbox id
  | .textbox => buildTextbox id
  | .slider => buildSlider id
  | .dropdown => buildDropdown id
  | .radioSet => buildRadioSet id
  | .scroller => buildScroller config.scroll
  | .eventBlocker => pure ()

end LayeredPage.Craft
