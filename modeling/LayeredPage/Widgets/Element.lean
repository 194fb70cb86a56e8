import LayeredPage.Host.Document
import LayeredPage.Wire.Patch

/-!
# Native elements

An element is a leaf that carries its id, fixed parts below the leaf, and for some kinds options
that are rebuilt when their list changes. Those who build and update it name its nodes by their
place in it.
-/

namespace LayeredPage

/-- The sampler of a scroller and its outer size. -/
structure ScrollRegion where
  sampler : SamplerId
  width : Float
  height : Float

/-- The region with those of its outer sizes replaced that are given. -/
def ScrollRegion.resize (r : ScrollRegion) (width height : Option Float) : ScrollRegion :=
  { r with width := width.getD r.width, height := height.getD r.height }

/-- Values last written to a slider. -/
structure SliderCache where
  value : Option Float
  step : Option Float
  min : Option Float
  max : Option Float

def SliderCache.empty : SliderCache := ⟨none, none, none, none⟩

/-- What an element remembers of its own patches. -/
structure Notes where
  observed : Bool
  linkStyle : Option TextStyle
  /-- Markup last written to a text. -/
  html : Option String
  selected : Option UInt32
  tabIndex : Option Int
  slider : SliderCache

def Notes.blank : Notes := ⟨false, none, none, none, none, .empty⟩

structure Element extends Notes where
  widget : Widget
  leaf : OwnedNode
  /-- Parents before children; the first part is the leaf's first child. -/
  parts : List OwnedNode
  /-- Options of a dropdown; row, button and label in turn of a radio set. -/
  options : List OwnedNode
  scroll : Option ScrollRegion
  frame : Option UInt32
  layer : UInt32

/-- The place of a node in its element. -/
inductive Spot where
  | leaf
  | part (i : Nat)
  | option (i : Nat)
deriving DecidableEq, Repr

namespace Element

def leafClass : String := "native-leaf"

def start (widget : Widget) (leaf : OwnedNode) (c : Creation) : Element where
  toNotes := .blank
  widget := widget
  leaf := leaf
  parts := []
  options := []
  scroll := none
  frame := c.frame
  layer := c.layer

/-- Everything below the leaf. -/
def fittings (e : Element) : List OwnedNode := e.parts ++ e.options

def nodes (e : Element) : List OwnedNode := e.leaf :: e.fittings

def part? (e : Element) (i : Nat) : Option NodeId := e.parts[i]?.map (·.id)

/-- The node at a place, or the leaf where there is none. -/
def node (e : Element) : Spot → NodeId
  | .leaf => e.leaf.id
  | .part i => (e.part? i).getD e.leaf.id
  | .option i => (e.options[i]?.map (·.id)).getD e.leaf.id

end Element

end LayeredPage
