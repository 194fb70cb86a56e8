import LayeredPage.Wire.Patch

/-!
# Clip containers

A container is a rectangle placed by an affine transform, perhaps inside another container. Its clip
polygon is published once, as a property of the document's root; every node that instantiates the
container refers to that property.
-/

namespace LayeredPage

structure Container where
  parent : Option UInt32
  width : Float
  height : Float
  transform : Affine

namespace Container

/-- Without extent, at its parent's origin. -/
def start (parent : Option UInt32) : Container := ⟨parent, 0, 0, .identity⟩

/-- Takes over the fields that are present. -/
def merge (c : Container) (g : Geometry) : Container :=
  { c with
    width := g.width.getD c.width
    height := g.height.getD c.height
    transform := g.transform.getD c.transform }

/-- The placed corners, clockwise from the origin. -/
def polygon (c : Container) : List (Point Float) :=
  [⟨0, 0⟩, ⟨c.width, 0⟩, ⟨c.width, c.height⟩, ⟨0, c.height⟩].map c.transform.apply

def cornerCss (p : Point Float) : String :=
  Number.styleText p.x ++ "px " ++ Number.styleText p.y ++ "px"

def clipPathCss (c : Container) : String :=
  "polygon(" ++ ", ".intercalate (c.polygon.map cornerCss) ++ ")"

/-- The root property that holds a container's clip path. -/
def clipProperty (id : UInt32) : String := s!"--container-{id}-clip-path"

/-- How an instantiation refers to it. -/
def clipReference (id : UInt32) : String := "var(" ++ clipProperty id ++ ")"

end Container

end LayeredPage
