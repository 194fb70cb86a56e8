import LayeredPage.Number.Scalar
import Mathlib.Algebra.Group.Basic
import Mathlib.Algebra.Group.Int.Defs
import Mathlib.Data.Rat.Defs
import Mathlib.Tactic.Abel

/-!
# Exact scalars

The rationals as scalars: arithmetic without rounding, and comparisons without unordered values.
Points with rational coordinates are a group, in which movements add up.
-/

namespace LayeredPage

instance : Scalar ℚ where
  ofNat n := n
  below a b := decide (a < b)
  atMost a b := decide (a ≤ b)
  same a b := decide (a = b)

deriving instance DecidableEq for Point

attribute [ext] Point

namespace Point

instance : Zero (Point ℚ) := ⟨.zero⟩

instance : Add (Point ℚ) := ⟨fun p q => ⟨p.x + q.x, p.y + q.y⟩⟩

instance : Neg (Point ℚ) := ⟨fun p => ⟨-p.x, -p.y⟩⟩

instance : Sub (Point ℚ) := ⟨.sub⟩

instance : AddCommGroup (Point ℚ) where
  add_assoc p q r := Point.ext (add_assoc ..) (add_assoc ..)
  zero_add p := Point.ext (zero_add _) (zero_add _)
  add_zero p := Point.ext (add_zero _) (add_zero _)
  add_comm p q := Point.ext (add_comm ..) (add_comm ..)
  neg_add_cancel p := Point.ext (neg_add_cancel _) (neg_add_cancel _)
  sub_eq_add_neg p q := Point.ext (sub_eq_add_neg ..) (sub_eq_add_neg ..)
  nsmul := nsmulRec
  zsmul := zsmulRec

@[simp] lemma zero_eq : (Point.zero : Point ℚ) = 0 := rfl

@[simp] lemma sub_eq (p q : Point ℚ) : p.sub q = p - q := rfl

end Point

end LayeredPage
