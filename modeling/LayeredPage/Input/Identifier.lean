import LayeredPage.Number.Literal
import LayeredPage.Text.Blank
import LayeredPage.Wire.Interrupt

/-!
# Element ids on the page

Every leaf carries its element's id as an attribute. Size reports name the element by reading it
back.
-/

namespace LayeredPage

/-- The attribute in which a leaf carries its element's id. -/
def nativeIdAttribute : String := "data-native-id"

/-- Reads an id between blanks. -/
def nativeId? (text : String) : Option UInt32 := Number.word? (Text.trim text.toList)

/-- One interrupt for all reports; none for no report. -/
def sizesInterrupt? {α : Type} (reports : List (SizeReport α)) : Option (Interrupt α) :=
  if reports.isEmpty then none else some (.sizes reports)

end LayeredPage
