/-!
# Entities

Two ways to make text safe inside markup: as character data, where `&` and the angle brackets are
special, and as a value the renderer writes between quotes, where the quote and the angle brackets
are.
-/

namespace LayeredPage.Text

def dataEntity (c : Char) : List Char :=
  if c == '&' then "&amp;".toList
  else if c == '<' then "&lt;".toList
  else if c == '>' then "&gt;".toList
  else [c]

/-- Text as character data. -/
def escapeData (text : String) : String := String.ofList (text.toList.flatMap dataEntity)

def valueEntity (c : Char) : List Char :=
  if c == '\x22' then "&quot;".toList
  else if c == '<' then "&lt;".toList
  else if c == '>' then "&gt;".toList
  else [c]

/-- Text as an attribute value or the body of a code span. -/
def escapeValue (cs : List Char) : List Char := cs.flatMap valueEntity

end LayeredPage.Text
