import LayeredPage.Frame.Core
import LayeredPage.Memory.Document

/-!
# A document in memory beside a core

The two share nothing: a request changes one of them and leaves the other alone.
-/

namespace LayeredPage

structure MemoryHost (κ : Type) where
  document : MemoryDocument
  core : κ

namespace MemoryHost

variable {κ : Type}

abbrev Step (κ : Type) := StateT (MemoryHost κ) (Except Breach)

def onDocument {α : Type} (act : MemoryDocument.Checked α) : Step κ α :=
  fun h => do
    let (a, document) ← act h.document
    return (a, { h with document })

def onCore {α : Type} (act : κ → α × κ) : Step κ α :=
  fun h =>
    let (a, core) := act h.core
    .ok (a, { h with core })

variable [Core κ]

def answerPatch : (r : PatchRequest) → Step κ r.Reply
  | .document r => onDocument (MemoryDocument.answer r)
  | .addContext layer => onCore fun core => ((), Core.addContext layer core)
  | .removeContext layer => onCore fun core => ((), Core.removeContext layer core)
  | .imageLoaded path => onCore (Core.imageLoaded path)

def answerFrame : (r : FrameRequest) → Step κ r.Reply
  | .patch r => answerPatch r
  | .viewport width height => onCore fun core => ((), Core.viewport width height core)
  | .interrupt text payload => onCore (Core.interrupt text payload)
  | .tick => onCore Core.tick
  | .render => onCore fun core => ((), Core.render core)
  | .deallocate span => onCore fun core => ((), Core.deallocate span core)

/-- Answers the requests of a patching script. -/
def serve {α : Type} (script : Script Patching α) : Step κ α :=
  Script.run (I := Patching) answerPatch script

/-- Runs patching steps on the host. -/
def patch {σ α : Type} (act : Work σ α) (s : σ) : Step κ (Except PatchError α × σ) := serve (act s)

/-- Runs frame steps on the host. -/
def drive {σ α : Type} (act : Action (Script Framing) σ α) (s : σ) :
    Step κ (Except PatchError α × σ) :=
  Script.run (I := Framing) answerFrame (act s)

end MemoryHost

end LayeredPage
