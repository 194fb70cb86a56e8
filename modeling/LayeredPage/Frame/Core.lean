import LayeredPage.Host.Document

/-!
# The core

The core paints the canvases and sends the patches. Patching needs three of its calls; a frame needs
them all.
-/

namespace LayeredPage

/-- A span of the core's memory that holds one frame's patches, with the bytes read from it. -/
structure Batch.Span where
  start : Nat
  bytes : ByteArray

/-- Text of a span in diagnostics. -/
def Batch.Span.describe (span : Batch.Span) : String :=
  "WebBatch \x7b len: " ++ toString span.bytes.size ++ ", .. \x7d"

inductive FrameRequest where
  | patch (r : PatchRequest)
  | viewport (width height : Float)
  | interrupt (text : String) (payload : Option ByteArray)
  | tick
  | render
  | deallocate (span : Batch.Span)

/-- An interrupt is answered by whether the page should not act on the event itself. -/
@[reducible] def FrameRequest.Reply : FrameRequest → Type
  | .patch r => r.Reply
  | .interrupt .. => Bool
  | .tick => Batch.Span
  | .viewport .. | .render | .deallocate _ => Unit

@[reducible] def Framing : Interface := ⟨FrameRequest, FrameRequest.Reply⟩

def framePatching : Script.Embedding Patching Framing := ⟨.patch, fun _ reply => reply⟩

/-- Puts one request to the document or the core. -/
def call (r : FrameRequest) : Script Framing r.Reply := Script.request (I := Framing) r

/-- A core with the state `κ`. -/
class Core (κ : Type) where
  addContext : Nat → κ → κ
  removeContext : Nat → κ → κ
  imageLoaded : String → κ → Bool × κ
  viewport : Float → Float → κ → κ
  interrupt : String → Option ByteArray → κ → Bool × κ
  tick : κ → Batch.Span × κ
  render : κ → κ
  deallocate : Batch.Span → κ → κ

end LayeredPage
