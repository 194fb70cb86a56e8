import LayeredPage.Style.Affine
import LayeredPage.Style.TextStyle
import LayeredPage.Widgets.Kind

/-!
# Patches

The core's instructions. A widget is created, updated and deleted under its id; a frame is a clip
container; a restacking moves an element to another layer and depth. In an update every field is
optional and an absent one changes nothing.
-/

namespace LayeredPage

/-- Where a new element or frame goes. -/
structure Creation where
  id : UInt32
  frame : Option UInt32
  layer : UInt32
deriving DecidableEq, Repr

/-- A negative size of a text means that the text sizes itself. -/
structure Geometry where
  width : Option Float
  height : Option Float
  transform : Option Affine

structure TextChange where
  geometry : Geometry
  content : Option String
  style : Option TextStyle
  linkStyle : Option TextStyle
  editable : Option Bool

structure ButtonChange where
  geometry : Geometry
  content : Option String
  color : Option Color
  hoverColor : Option Color
  outlineColor : Option Color
  outlineWidth : Option Float
  borderRadius : Option Float
  style : Option TextStyle

structure CheckboxChange where
  geometry : Geometry
  checked : Option Bool
  background : Option Color
  checkedBackground : Option Color
  outlineColor : Option Color
  outlineWidth : Option Float
  borderRadius : Option Float

structure TextboxChange where
  geometry : Geometry
  text : Option String
  background : Option Color
  strokeColor : Option Color
  strokeWidth : Option Float
  borderRadius : Option Float
  focus : Option Bool
  style : Option TextStyle

structure SliderChange where
  geometry : Geometry
  value : Option Float
  step : Option Float
  min : Option Float
  max : Option Float
  accent : Option Color
  background : Option Color
  borderRadius : Option Float

structure DropdownChange where
  geometry : Geometry
  options : Option (List String)
  selected : Option UInt32
  background : Option Color
  strokeColor : Option Color
  strokeWidth : Option Float
  borderRadius : Option Float
  style : Option TextStyle

structure RadioSetChange where
  geometry : Geometry
  options : Option (List String)
  selected : Option UInt32
  background : Option Color
  checkedBackground : Option Color
  outlineColor : Option Color
  outlineWidth : Option Float
  style : Option TextStyle

structure ScrollerChange where
  geometry : Geometry
  innerWidth : Option Float
  innerHeight : Option Float
  scrollX : Option Float
  scrollY : Option Float

inductive Change where
  | text (c : TextChange)
  | button (c : ButtonChange)
  | checkbox (c : CheckboxChange)
  | textbox (c : TextboxChange)
  | slider (c : SliderChange)
  | dropdown (c : DropdownChange)
  | radioSet (c : RadioSetChange)
  | scroller (c : ScrollerChange)
  | eventBlocker (g : Geometry)

/-- The kind of element a change is meant for. -/
def Change.widget : Change → Widget
  | .text _ => .text
  | .button _ => .button
  | .checkbox _ => .checkbox
  | .textbox _ => .textbox
  | .slider _ => .slider
  | .dropdown _ => .dropdown
  | .radioSet _ => .radioSet
  | .scroller _ => .scroller
  | .eventBlocker _ => .eventBlocker

inductive Patch where
  | create (widget : Widget) (c : Creation)
  | update (id : UInt32) (change : Change)
  | delete (widget : Widget) (id : UInt32)
  | restack (id layer depth : UInt32)
  | createFrame (c : Creation)
  | updateFrame (id : UInt32) (g : Geometry)
  | deleteFrame (id : UInt32)
  | loadImage (id : UInt32) (path : String)

/-- What the single key of a patch says. -/
inductive PatchTag where
  | create (widget : Widget)
  | update (widget : Widget)
  | delete (widget : Widget)
  | restack
  | createFrame
  | updateFrame
  | deleteFrame
  | loadImage
deriving DecidableEq, Repr

namespace PatchTag

def all : List PatchTag :=
  [.restack, .createFrame, .updateFrame, .deleteFrame, .loadImage] ++
    Widget.all.flatMap fun w => [.create w, .update w, .delete w]

def name : PatchTag → String
  | .create w => w.wireName ++ "Create"
  | .update w => w.wireName ++ "Update"
  | .delete w => w.wireName ++ "Delete"
  | .restack => "OcclusionUpdate"
  | .createFrame => "FrameCreate"
  | .updateFrame => "FrameUpdate"
  | .deleteFrame => "FrameDelete"
  | .loadImage => "ImageLoad"

def ofName? (s : String) : Option PatchTag := all.find? fun t => t.name == s

end PatchTag

def Patch.tag : Patch → PatchTag
  | .create w _ => .create w
  | .update _ change => .update change.widget
  | .delete w _ => .delete w
  | .restack .. => .restack
  | .createFrame _ => .createFrame
  | .updateFrame .. => .updateFrame
  | .deleteFrame _ => .deleteFrame
  | .loadImage .. => .loadImage

end LayeredPage
