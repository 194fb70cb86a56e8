import LayeredPage.Json.Value
import LayeredPage.Number.Scalar

/-!
# Interrupts

What the page tells the core: input on widgets, window input, scrolling, measured sizes, loaded
images. Each is sent as a JSON object with its name as the only key. Coordinates are taken from any
scalar; only the text is tied to binary64.
-/

namespace LayeredPage

inductive MouseButton where
  | left
  | middle
  | right
  | unknown
deriving DecidableEq, Repr

def MouseButton.all : List MouseButton := [.left, .middle, .right, .unknown]

def MouseButton.name : MouseButton → String
  | .left => "Left"
  | .middle => "Middle"
  | .right => "Right"
  | .unknown => "Unknown"

inductive ModifierKey where
  | shift
  | control
  | alt
  | command
deriving DecidableEq, Repr

def ModifierKey.all : List ModifierKey := [.shift, .control, .alt, .command]

def ModifierKey.name : ModifierKey → String
  | .shift => "Shift"
  | .control => "Control"
  | .alt => "Alt"
  | .command => "Command"

inductive MouseEvent where
  | click
  | doubleClick
  | move
  | down
  | up
  | over
  | out
  | contextMenu
deriving DecidableEq, Repr

def MouseEvent.all : List MouseEvent :=
  [.click, .doubleClick, .move, .down, .up, .over, .out, .contextMenu]

def MouseEvent.name : MouseEvent → String
  | .click => "Click"
  | .doubleClick => "DoubleClick"
  | .move => "MouseMove"
  | .down => "MouseDown"
  | .up => "MouseUp"
  | .over => "MouseOver"
  | .out => "MouseOut"
  | .contextMenu => "ContextMenu"

inductive TouchEvent where
  | start
  | move
  | stop
deriving DecidableEq, Repr

def TouchEvent.all : List TouchEvent := [.start, .move, .stop]

def TouchEvent.name : TouchEvent → String
  | .start => "TouchStart"
  | .move => "TouchMove"
  | .stop => "TouchEnd"

inductive KeyEvent where
  | down
  | up
  | press
deriving DecidableEq, Repr

def KeyEvent.all : List KeyEvent := [.down, .up, .press]

def KeyEvent.name : KeyEvent → String
  | .down => "KeyDown"
  | .up => "KeyUp"
  | .press => "KeyPress"

/-- One touch with its movement since it was last reported. -/
structure TouchReport (α : Type) where
  position : Point α
  identifier : Int
  delta : Point α

/-- The measured size of an element that sizes itself. -/
structure SizeReport (α : Type) where
  id : UInt32
  width : α
  height : α

inductive Interrupt (α : Type) where
  | buttonClick (id : UInt32)
  | checkboxToggle (id : UInt32) (state : Bool)
  | textboxInput (id : UInt32) (text : String)
  | textboxChange (id : UInt32) (text : String)
  | sliderChange (id : UInt32) (value : α)
  | dropdownChange (id selected : UInt32)
  | radioSetChange (id selected : UInt32)
  | textInput (id : UInt32) (text : String)
  | mouse (event : MouseEvent) (position : Point α) (button : MouseButton)
      (modifiers : List ModifierKey)
  | clap (position : Point α)
  | wheel (position delta : Point α) (modifiers : List ModifierKey)
  | touches (event : TouchEvent) (reports : List (TouchReport α))
  | key (event : KeyEvent) (name : String) (modifiers : List ModifierKey) (isRepeat : Bool)
  | dropFile (position : Point α) (name mimeType : String) (size : UInt64)
  | scroll (delta : Point α)
  | sizes (reports : List (SizeReport α))
  | image (id : UInt32) (path : String) (width height : UInt32)

namespace Interrupt

def modifiersJson (modifiers : List ModifierKey) : Json :=
  .array (modifiers.map fun m => .string m.name)

def wordJson (n : UInt32) : Json := .int n.toNat

def touchJson (t : TouchReport Float) : Json :=
  .object [("x", .float t.position.x), ("y", .float t.position.y),
    ("identifier", .int t.identifier), ("delta_x", .float t.delta.x), ("delta_y", .float t.delta.y)]

def sizeJson (r : SizeReport Float) : Json :=
  .object [("id", wordJson r.id), ("width", .float r.width), ("height", .float r.height)]

/-- Name and payload. -/
def parts : Interrupt Float → String × Json
  | .buttonClick id => ("FormButtonClick", .object [("id", wordJson id)])
  | .checkboxToggle id state =>
    ("FormCheckboxToggle", .object [("id", wordJson id), ("state", .bool state)])
  | .textboxInput id text =>
    ("FormTextboxInput", .object [("id", wordJson id), ("text", .string text)])
  | .textboxChange id text =>
    ("FormTextboxChange", .object [("id", wordJson id), ("text", .string text)])
  | .sliderChange id value =>
    ("FormSliderChange", .object [("id", wordJson id), ("value", .float value)])
  | .dropdownChange id selected =>
    ("FormDropdownChange", .object [("id", wordJson id), ("selected_id", wordJson selected)])
  | .radioSetChange id selected =>
    ("FormRadioSetChange", .object [("id", wordJson id), ("selected_id", wordJson selected)])
  | .textInput id text => ("TextInput", .object [("id", wordJson id), ("text", .string text)])
  | .mouse event position button modifiers =>
    (event.name, .object [("x", .float position.x), ("y", .float position.y),
      ("button", .string button.name), ("modifiers", modifiersJson modifiers)])
  | .clap position => ("Clap", .object [("x", .float position.x), ("y", .float position.y)])
  | .wheel position delta modifiers =>
    ("Wheel", .object [("x", .float position.x), ("y", .float position.y),
      ("delta_x", .float delta.x), ("delta_y", .float delta.y),
      ("modifiers", modifiersJson modifiers)])
  | .touches event reports =>
    (event.name, .object [("touches", .array (reports.map touchJson))])
  | .key event name modifiers isRepeat =>
    (event.name, .object [("key", .string name), ("modifiers", modifiersJson modifiers),
      ("is_repeat", .bool isRepeat)])
  | .dropFile position name mimeType size =>
    ("DropFile", .object [("x", .float position.x), ("y", .float position.y),
      ("name", .string name), ("mime_type", .string mimeType), ("size", .int size.toNat)])
  | .scroll delta =>
    ("Scroll", .object [("delta_x", .float delta.x), ("delta_y", .float delta.y)])
  | .sizes reports => ("ChassisResizeRequestCollection", .array (reports.map sizeJson))
  | .image id path width height =>
    ("Image", .object [("Data", .object [("id", wordJson id), ("path", .string path),
      ("width", wordJson width), ("height", wordJson height)])])

def json (i : Interrupt Float) : Json := .object [i.parts]

/-- The text that the core receives. -/
def text (i : Interrupt Float) : String := i.json.text

end Interrupt

end LayeredPage
