import LayeredPage.Number.Layout

/-!
# Colours

Channels are fractions of one. In style values red, green and blue count to 255, hue to 360 degrees,
saturation and lightness are percentages, and alpha stays a fraction; a colour without alpha is
opaque.
-/

namespace LayeredPage

open Number (styleText)

inductive Color where
  | rgba (red green blue alpha : Float)
  | hsla (hue saturation lightness alpha : Float)
  | rgb (red green blue : Float)
  | hsl (hue saturation lightness : Float)

namespace Color

def rgbaText (red green blue alpha : Float) : String :=
  "rgba(" ++ styleText (red * 255) ++ "," ++ styleText (green * 255) ++ "," ++
    styleText (blue * 255) ++ "," ++ styleText alpha ++ ")"

def hslaText (hue saturation lightness alpha : Float) : String :=
  "hsla(" ++ styleText (hue * 360) ++ "," ++ styleText (saturation * 100) ++ "%," ++
    styleText (lightness * 100) ++ "%," ++ styleText alpha ++ ")"

def css : Color → String
  | .rgba r g b a => rgbaText r g b a
  | .rgb r g b => rgbaText r g b 1
  | .hsla h s l a => hslaText h s l a
  | .hsl h s l => hslaText h s l 1

end Color

end LayeredPage
