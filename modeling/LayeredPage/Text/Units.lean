/-!
# Length in 16-bit units

Carets in text controls are counted in 16-bit units: a character beyond the first 65536 takes two.
-/

namespace LayeredPage.Text

def units16 (text : String) : Nat :=
  text.toList.foldl (fun count c => count + if c.toNat < 65536 then 1 else 2) 0

end LayeredPage.Text
