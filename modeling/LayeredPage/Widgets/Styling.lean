import LayeredPage.Widgets.Bench

/-!
# Styling nodes

Style writes that several widgets share.
-/

namespace LayeredPage

namespace Styling

/-- Length in pixels. -/
def px (x : Float) : String := Number.styleText x ++ "px"

def write (spot : Spot) (w : NodeWrite) : Craft Unit := Craft.call (.write spot w)

def style (spot : Spot) (property value : String) : Craft Unit := write spot (.style property value)

def attr (spot : Spot) (name value : String) : Craft Unit := write spot (.attr name value)

def setForm (spot : Spot) (property : FormProperty) : Craft Unit := write spot (.form property)

def stylePx (spot : Spot) (property : String) (x : Option Float) : Craft Unit :=
  each x fun x => style spot property (px x)

def styleColor (spot : Spot) (property : String) (color : Option Color) : Craft Unit :=
  each color fun color => style spot property color.css

/-- Sizes one node and places another. -/
def applyGeometry (placed sized : Spot) (g : Geometry) : Craft Unit := do
  stylePx sized "width" g.width
  stylePx sized "height" g.height
  each g.transform fun t => style placed "transform" t.css

def decoration (underline : Bool) : String := if underline then "underline" else "none"

def applyAlignment (container element : Spot) (s : TextStyle) : Craft Unit := do
  each s.block fun align => do
    style container "display" "flex"
    style container "justify-content" align.justifyContent
  each s.vertical fun align => style container "align-items" align.alignItems
  each s.lines fun align => style element "text-align" align.textAlign

/-- Writes a font through `put`, loading its face if need be. -/
def applyFont (put : String → String → Craft Unit) (font : Font) : Craft Unit := do
  Craft.call (.useFont font)
  put "font-family" font.familyCss
  each font.style fun face => put "font-style" face.css
  each font.weight fun weight => put "font-weight" (toString weight.number)

/-- Face and block alignment go on the container; colour, size, decoration and line alignment on the
element. -/
def applyTextStyle (container element : Spot) (s : TextStyle) : Craft Unit := do
  each s.font (applyFont (style container))
  styleColor element "color" s.fill
  stylePx element "font-size" s.size
  each s.underline fun u => style element "text-decoration" (decoration u)
  applyAlignment container element s

/-- Styles every link below the element; alignment still goes on the block as a whole. -/
def applyLinkStyle (container element : Spot) (s : TextStyle) : Craft Unit := do
  let link := fun property value => write element (.linkStyle property value)
  each s.font (applyFont link)
  each s.fill fun fill => link "color" fill.css
  each s.size fun size => link "font-size" (px size)
  each s.underline fun u => link "text-decoration" (decoration u)
  applyAlignment container element s

end Styling

end LayeredPage
