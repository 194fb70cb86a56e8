import LayeredPage.Memory.Node
import LayeredPage.Number.Literal

/-!
# Elements of a page

An element is known by its place in the order of creation. Markup that is set on an element is kept
as text; only the links in it become elements.
-/

namespace LayeredPage

structure ElementId where
  index : Nat
deriving DecidableEq, Repr

structure PageElement where
  tag : String
  parent : Option ElementId
  children : List ElementId
  /-- Links inside the markup. -/
  links : List ElementId
  attributes : Names
  style : Names
  html : String
  value : String
  checked : Bool
  /-- The chosen option; negative for none. -/
  selected : Int
  caret : Option Nat
  scrollLeft : Option Float
  scrollTop : Option Float
  clientWidth : Int
  clientHeight : Int

namespace PageElement

def fresh (tag : String) : PageElement :=
  ⟨tag, none, [], [], ∅, ∅, "", "", false, -1, none, none, none, 0, 0⟩

def isInput (e : PageElement) : Bool := e.tag == "input"

def isSelect (e : PageElement) : Bool := e.tag == "select"

def isCanvas (e : PageElement) : Bool := e.tag == "canvas"

/-- Whether the element belongs to the page's own markup, not to a drawing inside it. -/
def isHtml (e : PageElement) : Bool := e.tag != "svg"

/-- A size of a canvas, where none that can be read is set. -/
def size (e : PageElement) (name : String) (unset : UInt32) : UInt32 :=
  ((e.attributes[name]?).bind fun text => Number.word? text.toList).getD unset

def bufferWidth (e : PageElement) : UInt32 := e.size "width" 300

def bufferHeight (e : PageElement) : UInt32 := e.size "height" 150

/-- Names of all attributes; the inline style is one of them while it is not empty. -/
def attributeNames (e : PageElement) : List String :=
  e.attributes.keys ++ if e.style.isEmpty then [] else ["style"]

def removeAttribute (e : PageElement) (name : String) : PageElement :=
  { e with
    attributes := e.attributes.erase name
    style := if name == "style" then ∅ else e.style }

/-- A name that is empty or has a space in it is no name of an attribute. -/
def setAttribute (e : PageElement) (name value : String) : PageElement :=
  if name == "" || name.toList.contains ' ' then e
  else { e with attributes := e.attributes.insert name value }

/-- The number that the element's value reads as, if it is one. -/
def number (e : PageElement) : Float := (Number.parse? e.value).getD (0.0 / 0.0)

end PageElement

/-- How many links a piece of markup opens. -/
def linkCount : List Char → Nat
  | '<' :: 'a' :: ' ' :: rest => linkCount rest + 1
  | _ :: rest => linkCount rest
  | [] => 0

end LayeredPage
