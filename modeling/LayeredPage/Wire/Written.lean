import LayeredPage.Wire.Patch
import LayeredPage.Wire.Schema

/-!
# The written form of patches

What the core sends, member by member: absent fields are left out, names are those that
`Schema.patch?` reads.
-/

namespace LayeredPage

namespace Written

def word (n : UInt32) : Json := .int n.toNat

/-- A member that is left out when there is nothing to say. -/
def member {α : Type} (key : String) (write : α → Json) : Option α → List (String × Json)
  | some a => [(key, write a)]
  | none => []

def numbers (xs : List Float) : Json := .array (xs.map .float)

def names (labels : List String) : Json := .array (labels.map .string)

def color : Color → Json
  | .rgba r g b a => .object [("Rgba", numbers [r, g, b, a])]
  | .hsla h s l a => .object [("Hsla", numbers [h, s, l, a])]
  | .rgb r g b => .object [("Rgb", numbers [r, g, b])]
  | .hsl h s l => .object [("Hsl", numbers [h, s, l])]

def affine (t : Affine) : Json := numbers t.coefficients

def origin : FontOrigin → String × List (String × Json)
  | .installed => ("System", [])
  | .web url => ("Web", [("url", .string url)])
  | .bundled path => ("Local", [("path", .string path)])

def font (f : Font) : Json :=
  let (kind, address) := origin f.origin
  .object [(kind, .object (("family", .string f.family) :: address ++
    member "style" (fun s => .string s.name) f.style ++
    member "weight" (fun w => .string w.name) f.weight))]

def textStyle (s : TextStyle) : Json :=
  .object (member "font" font s.font ++ member "fill" color s.fill ++
    member "font_size" .float s.size ++ member "underline" .bool s.underline ++
    member "align_multiline" (fun a => .string a.name) s.lines ++
    member "align_horizontal" (fun a => .string a.name) s.block ++
    member "align_vertical" (fun a => .string a.name) s.vertical)

def geometry (g : Geometry) : List (String × Json) :=
  member "size_x" .float g.width ++ member "size_y" .float g.height ++
    member "transform" affine g.transform

def change : Change → List (String × Json)
  | .text c =>
    geometry c.geometry ++ member "content" .string c.content ++ member "style" textStyle c.style ++
      member "style_link" textStyle c.linkStyle ++ member "editable" .bool c.editable
  | .button c =>
    geometry c.geometry ++ member "content" .string c.content ++ member "color" color c.color ++
      member "hover_color" color c.hoverColor ++
      member "outline_stroke_color" color c.outlineColor ++
      member "outline_stroke_width" .float c.outlineWidth ++
      member "border_radius" .float c.borderRadius ++ member "style" textStyle c.style
  | .checkbox c =>
    geometry c.geometry ++ member "checked" .bool c.checked ++
      member "background" color c.background ++
      member "background_checked" color c.checkedBackground ++
      member "outline_color" color c.outlineColor ++
      member "outline_width" .float c.outlineWidth ++
      member "border_radius" .float c.borderRadius
  | .textbox c =>
    geometry c.geometry ++ member "text" .string c.text ++ member "background" color c.background ++
      member "stroke_color" color c.strokeColor ++ member "stroke_width" .float c.strokeWidth ++
      member "border_radius" .float c.borderRadius ++ member "focus_on_mount" .bool c.focus ++
      member "style" textStyle c.style
  | .slider c =>
    geometry c.geometry ++ member "value" .float c.value ++ member "step" .float c.step ++
      member "min" .float c.min ++ member "max" .float c.max ++ member "accent" color c.accent ++
      member "background" color c.background ++ member "border_radius" .float c.borderRadius
  | .dropdown c =>
    geometry c.geometry ++ member "options" names c.options ++
      member "selected_id" word c.selected ++ member "background" color c.background ++
      member "stroke_color" color c.strokeColor ++ member "stroke_width" .float c.strokeWidth ++
      member "border_radius" .float c.borderRadius ++ member "style" textStyle c.style
  | .radioSet c =>
    geometry c.geometry ++ member "options" names c.options ++
      member "selected_id" word c.selected ++ member "background" color c.background ++
      member "background_checked" color c.checkedBackground ++
      member "outline_color" color c.outlineColor ++
      member "outline_width" .float c.outlineWidth ++ member "style" textStyle c.style
  | .scroller c =>
    geometry c.geometry ++ member "size_inner_pane_x" .float c.innerWidth ++
      member "size_inner_pane_y" .float c.innerHeight ++ member "scroll_x" .float c.scrollX ++
      member "scroll_y" .float c.scrollY
  | .eventBlocker g => geometry g

def creation (c : Creation) : Json :=
  .object ([("id", word c.id)] ++ member "parent_frame" word c.frame ++
    [("occlusion_layer_id", word c.layer)])

def payload : Patch → Json
  | .create _ c => creation c
  | .update id c => .object (("id", word id) :: change c)
  | .delete _ id => word id
  | .restack id layer depth =>
    .object [("id", word id), ("occlusion_layer_id", word layer), ("z_index", word depth)]
  | .createFrame c => creation c
  | .updateFrame id g => .object (("id", word id) :: geometry g)
  | .deleteFrame id => word id
  | .loadImage id path => .object [("id", word id), ("path", .string path)]

end Written

/-- A patch as an entry of a batch. -/
def Patch.json (p : Patch) : Json := .object [(p.tag.name, Written.payload p)]

end LayeredPage
