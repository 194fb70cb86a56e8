import LayeredPage.Markdown.Block
import LayeredPage.Widgets.Styling

/-!
# Updating widgets

An update writes only what its change carries.
-/

namespace LayeredPage.Craft

open Styling

/-- A negative size asks the element to size itself. -/
def isAuto (size : Option Float) : Bool :=
  match size with
  | some x => decide (x < 0)
  | none => false

/-- A size to be written. -/
def explicit (size : Option Float) : Option Float := size.filter fun x => decide (0 ≤ x)

/-- Markup is rewritten only when it changed, and links are styled again after that. -/
def updateText (c : TextChange) : Craft Unit := do
  let e ← call .look
  let text := Spot.part 0
  if (isAuto c.geometry.width || isAuto c.geometry.height) && !e.observed then
    write .leaf .observe
    remember fun n => { n with observed := true }
  applyGeometry .leaf .leaf
    ⟨explicit c.geometry.width, explicit c.geometry.height, c.geometry.transform⟩
  if isAuto c.geometry.width then write .leaf (.noStyle "width")
  if isAuto c.geometry.height then write .leaf (.noStyle "height")
  each c.editable fun editable => do
    attr text "contenteditable" (if editable then "true" else "false")
    if editable then
      style text "outline" "none"
      style text "width" "inherit"
      style text "height" "inherit"
  each c.style (applyTextStyle .leaf text)
  each c.linkStyle fun s => remember fun n => { n with linkStyle := some s }
  let html := c.content.map Markdown.render
  let rewritten := html.isSome && html != e.html
  if rewritten then
    each html fun html => do
      write text (.html html)
      remember fun n => { n with html := some html }
  if rewritten || c.linkStyle.isSome then
    each (← call .look).linkStyle (applyLinkStyle .leaf text)

/-- A label is never empty: an empty one would collapse the button's line. -/
def updateButton (c : ButtonChange) : Craft Unit := do
  let button := Spot.part 0
  let container := Spot.part 1
  let text := Spot.part 2
  if (← call .look).parts < 3 then return
  applyGeometry .leaf button c.geometry
  each c.content fun content => write text (.html (Markdown.render content))
  if (← call (.html text)).isEmpty then write text (.html " ")
  styleColor button "background" c.color
  styleColor button "--hover-color" c.hoverColor
  styleColor button "border-color" c.outlineColor
  stylePx button "border-width" c.outlineWidth
  stylePx button "border-radius" c.borderRadius
  each c.style (applyTextStyle container text)

def updateCheckbox (c : CheckboxChange) : Craft Unit := do
  let input := Spot.part 0
  applyGeometry .leaf input c.geometry
  each c.checked fun state => setForm input (.checked state)
  styleColor input "background" c.background
  styleColor input "--checked-color" c.checkedBackground
  styleColor input "border-color" c.outlineColor
  stylePx input "border-width" c.outlineWidth
  stylePx input "border-radius" c.borderRadius

/-- Five pixels of padding on either side count towards the width of a textbox. -/
def updateTextbox (c : TextboxChange) : Craft Unit := do
  let input := Spot.part 0
  applyGeometry .leaf input { c.geometry with width := c.geometry.width.map fun w => w - 10 }
  each c.style (applyTextStyle input input)
  style input "border-style" "solid"
  styleColor input "background" c.background
  styleColor input "border-color" c.strokeColor
  stylePx input "border-width" c.strokeWidth
  stylePx input "border-radius" c.borderRadius
  each c.text fun text => setForm input (.value text)
  if c.focus = some true then write input .focus

/-- Whether a value differs from the one written last. -/
def differs (cached value : Option Float) : Bool :=
  match value, cached with
  | none, _ => false
  | some _, none => true
  | some x, some y => x != y

/-- Writes a slider's value if it differs from the one written last. -/
def writeIfNew (input : Spot) (cached value : Option Float) (property : Float → FormProperty) :
    Craft (Option Float) := do
  match value with
  | some x =>
    if differs cached value then
      setForm input (property x)
      return value
    else return cached
  | none => return cached

/-- Bounds come before the value, so that the control does not clamp it to stale ones. -/
def updateSlider (c : SliderChange) : Craft Unit := do
  let cache := (← call .look).slider
  let input := Spot.part 0
  applyGeometry .leaf input c.geometry
  let min ← writeIfNew input cache.min c.min .min
  let max ← writeIfNew input cache.max c.max .max
  let step ← writeIfNew input cache.step c.step .step
  let value ← writeIfNew input cache.value c.value fun x => .value (Number.styleText x)
  remember fun n => { n with slider := ⟨value, step, min, max⟩ }
  styleColor input "accent-color" c.accent
  styleColor input "background-color" c.background
  stylePx input "border-radius" c.borderRadius

/-- Takes a node and hangs it under `parent`, as the next option. -/
def addOption (parent : Spot) (kind : NodeKind) : Craft Spot := call (.addOption parent kind)

/-- Builds the options of a dropdown, numbered from `index` on. -/
def addDropdownOptions (select : Spot) : Nat → List String → Craft Unit
  | _, [] => pure ()
  | index, label :: rest => do
    let option ← addOption select .option
    attr option "value" (toString index)
    write option (.text label)
    addDropdownOptions select (index + 1) rest

/-- A new list of options keeps the selection. -/
def updateDropdown (c : DropdownChange) : Craft Unit := do
  let select := Spot.part 0
  applyGeometry .leaf select c.geometry
  each c.style (applyTextStyle select select)
  each c.options fun labels => do
    call .clearOptions
    addDropdownOptions select 0 labels
  each c.selected fun selected => remember fun n => { n with selected := some selected }
  if c.options.isSome || c.selected.isSome then
    each (← call .look).selected fun selected => setForm select (.selectedIndex selected)
  style select "border-style" "solid"
  styleColor select "background-color" c.background
  styleColor select "border-color" c.strokeColor
  stylePx select "border-width" c.strokeWidth
  stylePx select "border-radius" c.borderRadius

/-- The name that the buttons of one set share. -/
def radioGroup (id : UInt32) : String := s!"radio-{id}"

def addRadioRow (fieldset : Spot) (group label : String) : Craft Unit := do
  let row ← addOption fieldset .div
  let input ← addOption row .input
  let caption ← addOption row .label
  style row "display" "flex"
  style row "align-items" "center"
  style row "margin-bottom" "3px"
  setForm input (.inputType "radio")
  attr input "name" group
  attr input "value" label
  attr input "class" "radio-set-style"
  write caption (.text label)

/-- The button of row `n`; rows are three nodes each, the button second. -/
def radioInput? (e : ElementView) (n : UInt32) : Option Spot :=
  let place := 3 * n.toNat + 1
  if place < e.options then some (.option place) else none

def updateRadioSet (id : UInt32) (c : RadioSetChange) : Craft Unit := do
  let fieldset := Spot.part 0
  applyGeometry .leaf fieldset c.geometry
  each c.style (applyTextStyle .leaf .leaf)
  each c.options fun labels => do
    call .clearOptions
    labels.forM (addRadioRow fieldset (radioGroup id))
  each c.selected fun selected => remember fun n => { n with selected := some selected }
  if c.options.isSome || c.selected.isSome then
    let e ← call .look
    each (e.selected.bind (radioInput? e)) fun input => setForm input (.checked true)
  styleColor fieldset "--background-color" c.background
  styleColor fieldset "--selected-color" c.checkedBackground
  styleColor fieldset "--border-color" c.outlineColor
  stylePx fieldset "--border-width" c.outlineWidth

/-- Bars appear on an axis whose inner size exceeds the outer one. -/
def overflow (inner outer : Float) : String := if inner ≤ outer then "hidden" else "auto"

def updateScroller (c : ScrollerChange) : Craft Unit := do
  let pane := Spot.part 0
  applyGeometry .leaf .leaf c.geometry
  call (.resizeRegion c.geometry.width c.geometry.height)
  let region := (← call .look).scroll
  let width := (region.map (·.width)).getD 0
  let height := (region.map (·.height)).getD 0
  each c.scrollX fun x => setForm .leaf (.scrollLeft x)
  each c.scrollY fun y => setForm .leaf (.scrollTop y)
  each c.innerWidth fun inner => do
    style .leaf "overflow-x" (overflow inner width)
    style pane "width" (px inner)
  each c.innerHeight fun inner => do
    style .leaf "overflow-y" (overflow inner height)
    style pane "height" (px inner)

/-- Updates the element with id `id`, whose kind is the change's. -/
def update (id : UInt32) : Change → Craft Unit
  | .text c => updateText c
  | .button c => updateButton c
  | .checkbox c => updateCheckbox c
  | .textbox c => updateTextbox c
  | .slider c => updateSlider c
  | .dropdown c => updateDropdown c
  | .radioSet c => updateRadioSet id c
  | .scroller c => updateScroller c
  | .eventBlocker g => applyGeometry .leaf .leaf g

end LayeredPage.Craft
