import LayeredPage.Host.Document

/-!
# Font faces in use

A face is loaded only when it is first seen.
-/

namespace LayeredPage

/-- The faces handed to the document so far, latest first. -/
structure FontCache where
  faces : List FaceRequest

namespace FontCache

def empty : FontCache := ⟨[]⟩

/-- Makes a font available; tells whether a load was started. -/
def register (font : Font) : Work FontCache Bool := do
  match font.face? with
  | none => return false
  | some face =>
    if face ∈ (← get).faces then return false
    ask (.loadFace face)
    set (FontCache.mk (face :: (← get).faces))
    return true

end FontCache

end LayeredPage
