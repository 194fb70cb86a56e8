import LayeredPage.Proofs.Likeness

/-!
# Cosmetic crafts

Geometries, text styles and colours write styles and load fonts, and do nothing else. No style that
they write is the one that the depth of an element is written to.
-/

namespace LayeredPage.Proofs

open Craft Styling

/-- Requests that only read, load a font or write a style other than the depth. -/
def Cosmetic : BenchRequest → Prop
  | .look | .html _ | .useFont _ => True
  | .write _ (.style property _) | .write _ (.noStyle property) => property ≠ "z-index"
  | .write _ (.linkStyle ..) => True
  | _ => False

section Crafts

variable {property : String}

lemma cosmetic_style (spot : Spot) (other : property ≠ "z-index") (value : String) :
    Uses Cosmetic (style spot property value) :=
  ⟨other, fun _ => trivial⟩

lemma cosmetic_px (spot : Spot) (other : property ≠ "z-index") (x : Option Float) :
    Uses Cosmetic (stylePx spot property x) :=
  uses_each fun _ => cosmetic_style _ other _

lemma cosmetic_color (spot : Spot) (other : property ≠ "z-index") (color : Option Color) :
    Uses Cosmetic (styleColor spot property color) :=
  uses_each fun _ => cosmetic_style _ other _

lemma cosmetic_geometry (placed sized : Spot) (g : Geometry) :
    Uses Cosmetic (applyGeometry placed sized g) := by
  refine (cosmetic_px _ (by decide) _).bind fun _ => ?_
  refine (cosmetic_px _ (by decide) _).bind fun _ => ?_
  exact uses_each fun _ => cosmetic_style _ (by decide) _

lemma Typographic.cosmetic {container element : Spot} (r : BenchRequest)
    (typographic : Typographic container element r) : Cosmetic r := by
  have shallow : ∀ p ∈ typography, p ≠ "z-index" := by decide
  cases r with
  | useFont => trivial
  | write spot w =>
    cases w with
    | style property => exact shallow property typographic.2
    | linkStyle => trivial
    | attr | noStyle | html | text | form | focus | bind | observe => exact typographic.elim
  | look | note | addPart | addOption | clearOptions | html | sample | resizeRegion =>
    exact typographic.elim

lemma cosmetic_textStyle (container element : Spot) (s : TextStyle) :
    Uses Cosmetic (applyTextStyle container element s) :=
  (typographic_textStyle container element s).mono Typographic.cosmetic

lemma cosmetic_linkStyle (container element : Spot) (s : TextStyle) :
    Uses Cosmetic (applyLinkStyle container element s) :=
  (typographic_linkStyle container element s).mono Typographic.cosmetic

end Crafts

end LayeredPage.Proofs
