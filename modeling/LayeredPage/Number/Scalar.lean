/-!
# Scalars

Scroll prediction and touch tracking use only arithmetic and three comparisons. They are written
over a `Scalar`, so that the same definitions run on binary64 and can be read over an exact field.
-/

namespace LayeredPage

/-- Arithmetic with small literals, and comparisons that are false on unordered arguments. -/
class Scalar (α : Type) extends Add α, Sub α, Mul α, Div α where
  ofNat : Nat → α
  below : α → α → Bool
  atMost : α → α → Bool
  same : α → α → Bool

instance : Scalar Float where
  ofNat n := Float.ofNat n
  below a b := a < b
  atMost a b := a ≤ b
  same a b := a == b

/-- A position or a displacement in the plane. -/
structure Point (α : Type) where
  x : α
  y : α
deriving BEq, Repr

namespace Point

variable {α : Type} [Scalar α]

def zero : Point α := ⟨Scalar.ofNat 0, Scalar.ofNat 0⟩

def same (p q : Point α) : Bool := Scalar.same p.x q.x && Scalar.same p.y q.y

def sub (p q : Point α) : Point α := ⟨p.x - q.x, p.y - q.y⟩

/-- The point that lies the fraction `t` of the way from `p` to `q`. -/
def lerp (p q : Point α) (t : α) : Point α := ⟨p.x + t * (q.x - p.x), p.y + t * (q.y - p.y)⟩

end Point

end LayeredPage
