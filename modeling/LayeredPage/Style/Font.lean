import LayeredPage.Text.Blank

/-!
# Fonts

A font is a family with an optional face style and weight, and an origin. Installed fonts need no
loading; every other font asks the page for one face.
-/

namespace LayeredPage

inductive FontStyle where
  | normal
  | italic
  | oblique
deriving DecidableEq, Repr

namespace FontStyle

def all : List FontStyle := [.normal, .italic, .oblique]

/-- Name on the wire. -/
def name : FontStyle → String
  | .normal => "Normal"
  | .italic => "Italic"
  | .oblique => "Oblique"

/-- Name in style values. -/
def css : FontStyle → String
  | .normal => "normal"
  | .italic => "italic"
  | .oblique => "oblique"

end FontStyle

inductive FontWeight where
  | thin
  | extraLight
  | light
  | normal
  | medium
  | semiBold
  | bold
  | extraBold
  | black
deriving DecidableEq, Repr

namespace FontWeight

def all : List FontWeight :=
  [.thin, .extraLight, .light, .normal, .medium, .semiBold, .bold, .extraBold, .black]

/-- Name on the wire. -/
def name : FontWeight → String
  | .thin => "Thin"
  | .extraLight => "ExtraLight"
  | .light => "Light"
  | .normal => "Normal"
  | .medium => "Medium"
  | .semiBold => "SemiBold"
  | .bold => "Bold"
  | .extraBold => "ExtraBold"
  | .black => "Black"

/-- Number in style values. -/
def number : FontWeight → Nat
  | .thin => 100
  | .extraLight => 200
  | .light => 300
  | .normal => 400
  | .medium => 500
  | .semiBold => 600
  | .bold => 700
  | .extraBold => 800
  | .black => 900

end FontWeight

inductive FontOrigin where
  | installed
  | web (url : String)
  | bundled (path : String)
deriving DecidableEq, Repr

structure Font where
  family : String
  origin : FontOrigin
  style : Option FontStyle
  weight : Option FontWeight
deriving DecidableEq, Repr

/-- A stylesheet declares faces of its own; a file holds one face. -/
inductive FaceSource where
  | stylesheet (url : String)
  | file (url : String)
deriving DecidableEq, Repr

/-- A face that the page is asked to make available. -/
structure FaceRequest where
  family : String
  source : FaceSource
  style : Option FontStyle
  weight : Option FontWeight
deriving DecidableEq, Repr

namespace Font

/-- Addresses that hold this text lead to stylesheets. -/
def stylesheetHost : String := "fonts.googleapis.com/css"

def face? (f : Font) : Option FaceRequest :=
  match f.origin with
  | .installed => none
  | .web url =>
    let source :=
      if Text.contains stylesheetHost.toList url.toList then FaceSource.stylesheet url
      else FaceSource.file url
    some ⟨f.family, source, f.style, f.weight⟩
  | .bundled path => some ⟨f.family, .file path, f.style, f.weight⟩

def familyCss (f : Font) : String := "\"" ++ f.family ++ "\""

end Font

end LayeredPage
