import LayeredPage.Config
import LayeredPage.Input.Binding
import LayeredPage.Pool
import LayeredPage.Style.Font

/-!
# Nodes

A node is known by its place in the surroundings' store. The kinds of elements are the tags of the
node pools.
-/

namespace LayeredPage

structure NodeId where
  index : Nat
deriving DecidableEq, Repr, Inhabited

def NodeId.describe (n : NodeId) : String := s!"NodeId({n.index})"

inductive NodeKind where
  | div
  | canvas
  | input
  | select
  | option
  | button
  | fieldset
  | label
deriving DecidableEq, Repr

namespace NodeKind

def all : List NodeKind :=
  [.div, .canvas, .input, .select, .option, .button, .fieldset, .label]

/-- Name of the element in a document. -/
def tagName : NodeKind → String
  | .div => "div"
  | .canvas => "canvas"
  | .input => "input"
  | .select => "select"
  | .option => "option"
  | .button => "button"
  | .fieldset => "fieldset"
  | .label => "label"

/-- Name of the kind in diagnostics. -/
def title : NodeKind → String
  | .div => "Div"
  | .canvas => "Canvas"
  | .input => "Input"
  | .select => "Select"
  | .option => "Option"
  | .button => "Button"
  | .fieldset => "Fieldset"
  | .label => "Label"

/-- Whether elements of this kind take the keyboard focus. -/
def isFocusable : NodeKind → Bool
  | .input | .select | .button => true
  | _ => false

end NodeKind

instance : Described NodeKind where
  describe := NodeKind.title

/-- A node on loan from the pool of its kind. -/
structure OwnedNode where
  id : NodeId
  kind : NodeKind
deriving DecidableEq, Repr

/-- A property of a form control, or of the scroll offset of a node. -/
inductive FormProperty where
  | inputType (kind : String)
  | value (text : String)
  | checked (state : Bool)
  | min (x : Float)
  | max (x : Float)
  | step (x : Float)
  | selectedIndex (n : UInt32)
  | scrollLeft (x : Float)
  | scrollTop (x : Float)

structure ImageRequest where
  id : UInt32
  path : String
  retry : Backoff
deriving DecidableEq, Repr

/-- Size of a canvas as laid out, and of its buffer. -/
structure SurfaceMetrics where
  clientWidth : Float
  clientHeight : Float
  bufferWidth : UInt32
  bufferHeight : UInt32

namespace SurfaceMetrics

/-- The buffer size needed at this pixel ratio, if it is not the present one. Fractions are cut off,
and sizes outside 32 bits become the nearest that fits. -/
def resizeTarget? (m : SurfaceMetrics) (ratio : Float) : Option (UInt32 × UInt32) :=
  let target := ((m.clientWidth * ratio).toUInt32, (m.clientHeight * ratio).toUInt32)
  if target = (m.bufferWidth, m.bufferHeight) then none else some target

end SurfaceMetrics

end LayeredPage
