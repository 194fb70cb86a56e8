import LayeredPage.Number.Layout
import LayeredPage.Number.Scalar

/-!
# Affine placements

Six coefficients place a rectangle in the plane: `x' = a x + c y + e`, `y' = b x + d y + f`. In
style values they are spread over a four by four matrix that leaves depth alone.
-/

namespace LayeredPage

structure Affine where
  a : Float
  b : Float
  c : Float
  d : Float
  e : Float
  f : Float

/-- A column of a four by four matrix. -/
structure Column where
  x : Float
  y : Float
  z : Float
  w : Float
deriving BEq

namespace Column

def entries (c : Column) : List Float := [c.x, c.y, c.z, c.w]

end Column

namespace Affine

def identity : Affine := ⟨1, 0, 0, 1, 0, 0⟩

def coefficients (t : Affine) : List Float := [t.a, t.b, t.c, t.d, t.e, t.f]

def apply (t : Affine) (p : Point Float) : Point Float :=
  ⟨t.a * p.x + t.c * p.y + t.e, t.b * p.x + t.d * p.y + t.f⟩

/-- The columns of the spread matrix, left to right. -/
def columns (t : Affine) : List Column :=
  [⟨t.a, t.b, 0, 0⟩, ⟨t.c, t.d, 0, 0⟩, ⟨0, 0, 1, 0⟩, ⟨t.e, t.f, 0, 1⟩]

/-- Whether the spread matrix is the identity; signs of zero do not matter. -/
def isIdentity (t : Affine) : Bool := t.columns == identity.columns

def css (t : Affine) : String :=
  "matrix3d(" ++ ",".intercalate ((t.columns.flatMap Column.entries).map Number.styleText) ++ ")"

end Affine

end LayeredPage
