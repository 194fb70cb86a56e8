import LayeredPage.Browser.Event

/-!
# Tasks of a page

Loading and reading go on beside the frames. What the network answers is laid down beforehand: every
address has a list of outcomes, and each fetch takes the next one.
-/

namespace LayeredPage

structure Picture where
  width : UInt32
  height : UInt32
  pixels : ByteArray

/-- What a fetch comes to. -/
inductive FetchOutcome where
  | rejected
  /-- An empty body with this status. -/
  | status (code : Nat)
  | text (body : String)
  | picture (p : Picture)
  /-- A body that is no picture. -/
  | undecodable

/-- A body that arrived, as text and as a picture. -/
structure Body where
  text : String
  picture : Option Picture

namespace FetchOutcome

def blank : Picture := ⟨0, 0, ByteArray.empty⟩

/-- The body, unless the fetch failed or the status tells of a failure. -/
def body? : FetchOutcome → Option Body
  | .rejected => none
  | .status code => if 200 ≤ code && code < 300 then some ⟨"", some blank⟩ else none
  | .text body => some ⟨body, some blank⟩
  | .picture p => some ⟨"", some p⟩
  | .undecodable => some ⟨"", none⟩

end FetchOutcome

inductive Task where
  /-- An image with the attempts that are left, and the wait after the next of them. -/
  | image (request : ImageRequest) (attempts : Nat) (delay : Nat)
  | stylesheet (url : String)
  | face (family : String)
  | dropped (position : Point Float) (file : DroppedFile)

end LayeredPage
