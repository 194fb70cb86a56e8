import LayeredPage.Error
import LayeredPage.Text.Blank
import LayeredPage.Wire.Patch
import LayeredPage.Wire.Schema

/-!
# Batches

One frame's patches are a JSON array of objects with one key each. A blank buffer and `null` are
empty batches. Entries with an unknown key are skipped; a known key with a payload that does not fit
fails the batch.
-/

namespace LayeredPage

namespace Schema

def creationNames : List String := ["id", "parent_frame", "occlusion_layer_id"]

def creation? (j : Json) : Option Creation := do
  let ms ← record? creationNames j
  return {
    id := ← required "id" word? ms
    frame := ← optional "parent_frame" word? ms
    layer := ← required "occlusion_layer_id" word? ms }

def placement? (ms : Members) : Option Geometry := do
  return {
    width := ← optional "size_x" number? ms
    height := ← optional "size_y" number? ms
    transform := ← optional "transform" affine? ms }

def textChange? (ms : Members) : Option TextChange := do
  return {
    geometry := ← placement? ms
    content := ← optional "content" string? ms
    style := ← optional "style" textStyle? ms
    linkStyle := ← optional "style_link" textStyle? ms
    editable := ← optional "editable" bool? ms }

def buttonChange? (ms : Members) : Option ButtonChange := do
  return {
    geometry := ← placement? ms
    content := ← optional "content" string? ms
    color := ← optional "color" color? ms
    hoverColor := ← optional "hover_color" color? ms
    outlineColor := ← optional "outline_stroke_color" color? ms
    outlineWidth := ← optional "outline_stroke_width" number? ms
    borderRadius := ← optional "border_radius" number? ms
    style := ← optional "style" textStyle? ms }

def checkboxChange? (ms : Members) : Option CheckboxChange := do
  return {
    geometry := ← placement? ms
    checked := ← optional "checked" bool? ms
    background := ← optional "background" color? ms
    checkedBackground := ← optional "background_checked" color? ms
    outlineColor := ← optional "outline_color" color? ms
    outlineWidth := ← optional "outline_width" number? ms
    borderRadius := ← optional "border_radius" number? ms }

def textboxChange? (ms : Members) : Option TextboxChange := do
  return {
    geometry := ← placement? ms
    text := ← optional "text" string? ms
    background := ← optional "background" color? ms
    strokeColor := ← optional "stroke_color" color? ms
    strokeWidth := ← optional "stroke_width" number? ms
    borderRadius := ← optional "border_radius" number? ms
    focus := ← optional "focus_on_mount" bool? ms
    style := ← optional "style" textStyle? ms }

def sliderChange? (ms : Members) : Option SliderChange := do
  return {
    geometry := ← placement? ms
    value := ← optional "value" number? ms
    step := ← optional "step" number? ms
    min := ← optional "min" number? ms
    max := ← optional "max" number? ms
    accent := ← optional "accent" color? ms
    background := ← optional "background" color? ms
    borderRadius := ← optional "border_radius" number? ms }

def dropdownChange? (ms : Members) : Option DropdownChange := do
  return {
    geometry := ← placement? ms
    options := ← optional "options" (list? string?) ms
    selected := ← optional "selected_id" word? ms
    background := ← optional "background" color? ms
    strokeColor := ← optional "stroke_color" color? ms
    strokeWidth := ← optional "stroke_width" number? ms
    borderRadius := ← optional "border_radius" number? ms
    style := ← optional "style" textStyle? ms }

def radioSetChange? (ms : Members) : Option RadioSetChange := do
  return {
    geometry := ← placement? ms
    options := ← optional "options" (list? string?) ms
    selected := ← optional "selected_id" word? ms
    background := ← optional "background" color? ms
    checkedBackground := ← optional "background_checked" color? ms
    outlineColor := ← optional "outline_color" color? ms
    outlineWidth := ← optional "outline_width" number? ms
    style := ← optional "style" textStyle? ms }

def scrollerChange? (ms : Members) : Option ScrollerChange := do
  return {
    geometry := ← placement? ms
    innerWidth := ← optional "size_inner_pane_x" number? ms
    innerHeight := ← optional "size_inner_pane_y" number? ms
    scrollX := ← optional "scroll_x" number? ms
    scrollY := ← optional "scroll_y" number? ms }

def change? (w : Widget) (ms : Members) : Option Change :=
  match w with
  | .text => (textChange? ms).map .text
  | .button => (buttonChange? ms).map .button
  | .checkbox => (checkboxChange? ms).map .checkbox
  | .textbox => (textboxChange? ms).map .textbox
  | .slider => (sliderChange? ms).map .slider
  | .dropdown => (dropdownChange? ms).map .dropdown
  | .radioSet => (radioSetChange? ms).map .radioSet
  | .scroller => (scrollerChange? ms).map .scroller
  | .eventBlocker => (placement? ms).map .eventBlocker

def restackNames : List String := ["id", "occlusion_layer_id", "z_index"]

def imageNames : List String := ["id", "path"]

/-- The path of an image request may be absent, but not null. -/
def path? (ms : Members) : Option String :=
  match Json.member? "path" ms with
  | none => some ""
  | some j => string? j

/-- The patch with this tag and payload. -/
def patch? (tag : PatchTag) (payload : Json) : Option Patch :=
  match tag with
  | .create w => (creation? payload).map (.create w)
  | .update w => do
    let ms ← members? payload
    return .update (← required "id" word? ms) (← change? w ms)
  | .delete w => (word? payload).map (.delete w)
  | .restack => do
    let ms ← record? restackNames payload
    return .restack (← required "id" word? ms) (← required "occlusion_layer_id" word? ms)
      (← required "z_index" word? ms)
  | .createFrame => (creation? payload).map .createFrame
  | .updateFrame => do
    let ms ← members? payload
    return .updateFrame (← required "id" word? ms) (← placement? ms)
  | .deleteFrame => (word? payload).map .deleteFrame
  | .loadImage => do
    let ms ← record? imageNames payload
    return .loadImage (← required "id" word? ms) (← path? ms)

end Schema

/-- The words in which the reader of batches puts what is wrong with them. -/
class Wording where
  /-- This buffer is no list of objects. -/
  shape : ByteArray → String
  /-- The payload of this tag does not fit it. -/
  misfit : PatchTag → Json → String

namespace Batch

variable [Wording]

/-- The patch of one entry; `none` for an entry with an unknown key. -/
def entry (ms : Schema.Members) : Except PatchError (Option Patch) :=
  match ms with
  | [(key, payload)] =>
    match PatchTag.ofName? key with
    | none => .ok none
    | some tag =>
      match Schema.patch? tag payload with
      | some p => .ok (some p)
      | none => .error (.malformed (.form (Wording.misfit tag payload)))
  | ms => .error (.malformed (.keys ms.length))

/-- The patches of some entries, up to the first bad one. -/
def ofEntries : List Schema.Members → Except PatchError (List Patch)
  | [] => .ok []
  | ms :: rest => do
    let p? ← entry ms
    let ps ← ofEntries rest
    return p?.toList ++ ps

/-- The entries of a batch. -/
def entries? : Json → Option (List Schema.Members)
  | .null => some []
  | .array items => items.mapM Schema.members?
  | _ => none

/-- Whether a buffer holds nothing but blanks. -/
def isBlank (bytes : ByteArray) : Bool :=
  bytes.toList.all fun b => b == 32 || b == 9 || b == 10 || b == 12 || b == 13

def decode (bytes : ByteArray) : Except PatchError (List Patch) :=
  if isBlank bytes then .ok []
  else
    match (Json.readBytes? bytes).bind entries? with
    | some entries => ofEntries entries
    | none => .error (.malformed (.form (Wording.shape bytes)))

end Batch

end LayeredPage
