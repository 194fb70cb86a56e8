import LayeredPage.Style.Color
import LayeredPage.Style.Font

/-!
# Text styles

Every field is optional; an absent field leaves the current styling alone.
-/

namespace LayeredPage

inductive HorizontalAlign where
  | left
  | center
  | right
deriving DecidableEq, Repr

namespace HorizontalAlign

def all : List HorizontalAlign := [.left, .center, .right]

/-- Name on the wire. -/
def name : HorizontalAlign → String
  | .left => "Left"
  | .center => "Center"
  | .right => "Right"

/-- Placement of a block in its flex container. -/
def justifyContent : HorizontalAlign → String
  | .left => "flex-start"
  | .center => "center"
  | .right => "flex-end"

/-- Alignment of the lines of a block. -/
def textAlign : HorizontalAlign → String
  | .left => "left"
  | .center => "center"
  | .right => "right"

end HorizontalAlign

inductive VerticalAlign where
  | top
  | center
  | bottom
deriving DecidableEq, Repr

namespace VerticalAlign

def all : List VerticalAlign := [.top, .center, .bottom]

/-- Name on the wire. -/
def name : VerticalAlign → String
  | .top => "Top"
  | .center => "Center"
  | .bottom => "Bottom"

def alignItems : VerticalAlign → String
  | .top => "flex-start"
  | .center => "center"
  | .bottom => "flex-end"

end VerticalAlign

structure TextStyle where
  font : Option Font
  fill : Option Color
  size : Option Float
  underline : Option Bool
  lines : Option HorizontalAlign
  block : Option HorizontalAlign
  vertical : Option VerticalAlign

end LayeredPage
